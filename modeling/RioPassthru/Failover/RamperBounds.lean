import Mathlib.Algebra.Order.Archimedean.Basic
import Mathlib.Analysis.Convex.Segment
import Mathlib.Analysis.Convex.Hull
import RioPassthru.Failover.ValueRamper
import RioPassthru.Lib.Approach

set_option autoImplicit false

namespace RioPassthru

open Approach Runs

variable {K : Type} [Field K] [LinearOrder K]

namespace ValueRamper

variable (ramper : ValueRamper K)

-- Before the first call nothing is remembered; every later one has a time of its own.
structure Ready : Prop where
  accel : 0 < ramper.mAccelRampRate
  decel : 0 < ramper.mDecelRampRate
  range : ramper.mZeroValue ≤ ramper.mMaxValue
  fresh : ramper.mPrevTime = 0 → ramper.mPrevValue = 0

def Due (call : RampCall K) : Prop := ramper.mPrevTime ≤ call.timeNow ∧ 0 < call.timeNow

def Within (last next : RampCall K × K) : Prop :=
  next.2 ∈ Set.uIcc last.2 next.1.currValue ∧
    |next.2 - last.2| ≤ (ramper.mMaxValue - ramper.mZeroValue) * (next.1.timeNow - last.1.timeNow) /
      min ramper.mAccelRampRate ramper.mDecelRampRate

def Ordered (calls : List (RampCall K)) : Prop :=
  (ramper.mPrevTime :: calls.map RampCall.timeNow).Pairwise (· ≤ ·) ∧ ∀ call ∈ calls, 0 < call.timeNow

def held (target : K) (times : ℕ → K) (n : ℕ) : List (RampCall K) := (List.range n).map fun k => ⟨times k, target⟩

variable [IsStrictOrderedRing K]

-- The four branches leave out no case in which the two values differ.
theorem ramped_moves (accelStep decelStep atLeast atMost prevValue currValue : K) (accel : 0 ≤ accelStep) (decel : 0 ≤ decelStep)
    (enough : atLeast ≤ accelStep ∧ atLeast ≤ decelStep) (bounded : accelStep ≤ atMost ∧ decelStep ≤ atMost) :
    Moves currValue atLeast atMost prevValue (ramped accelStep decelStep prevValue currValue) := by
  obtain up | same | down := lt_trichotomy prevValue currValue
  · obtain forward | reverse := le_or_gt 0 currValue
    · rw [ramped, if_pos ⟨up, forward⟩]
      exact moves_up _ _ _ _ _ up accel enough.1 bounded.1
    · rw [ramped, if_neg fun first => absurd first.2 reverse.not_ge, if_neg fun second => absurd second.1 up.not_gt,
        if_neg fun third => absurd third.1 up.not_gt, if_pos ⟨up, reverse.le⟩]
      exact moves_up _ _ _ _ _ up decel enough.2 bounded.2
  · have still : ramped accelStep decelStep prevValue currValue = currValue := by
      simp [ramped, same]
    rw [still, same]
    exact moves_nowhere _ _ _ (accel.trans bounded.1)
  · obtain forward | reverse := le_or_gt 0 currValue
    · rw [ramped, if_neg fun first => absurd first.1 down.not_gt, if_pos ⟨down, forward⟩]
      exact moves_down _ _ _ _ _ down decel enough.2 bounded.2
    · rw [ramped, if_neg fun first => absurd first.1 down.not_gt, if_neg fun second => absurd second.2 reverse.not_ge,
        if_pos ⟨down, reverse.le⟩]
      exact moves_down _ _ _ _ _ down accel enough.1 bounded.1

theorem step_le_step (slower faster timeNow : K) (range : ramper.mZeroValue ≤ ramper.mMaxValue)
    (due : ramper.mPrevTime ≤ timeNow) (positive : 0 < faster) (rates : faster ≤ slower) :
    ramper.step slower timeNow ≤ ramper.step faster timeNow :=
  div_le_div_of_nonneg_left (mul_nonneg (sub_nonneg.mpr range) (sub_nonneg.mpr due)) positive rates

theorem step_nonneg (rate timeNow : K) (range : ramper.mZeroValue ≤ ramper.mMaxValue)
    (due : ramper.mPrevTime ≤ timeNow) (positive : 0 < rate) : 0 ≤ ramper.step rate timeNow :=
  div_nonneg (mul_nonneg (sub_nonneg.mpr range) (sub_nonneg.mpr due)) positive.le

variable {ramper}

theorem calculate_output_spec (call : RampCall K) (ready : ramper.Ready) (due : ramper.Due call) :
    ∃ value, ramper.calculateOutput call = ({ ramper with mPrevTime := call.timeNow, mPrevValue := value }, value) ∧
      (ramper.mPrevTime = 0 → value = 0) ∧
      (ramper.mPrevTime ≠ 0 →
        Moves call.currValue (ramper.step (max ramper.mAccelRampRate ramper.mDecelRampRate) call.timeNow)
          (ramper.step (min ramper.mAccelRampRate ramper.mDecelRampRate) call.timeNow) ramper.mPrevValue value) := by
  obtain ⟨accel, decel, range, fresh⟩ := ready
  obtain ⟨later, -⟩ := due
  by_cases first : ramper.mPrevTime = 0
  · refine ⟨0, ?_, fun _ => rfl, fun again => absurd first again⟩
    rw [calculateOutput, if_neg (not_not.mpr first), ← fresh first]
  · refine ⟨_, if_pos first, fun again => absurd again first, fun _ => ?_⟩
    have slowest := lt_min accel decel
    have longer := fun slower faster => ramper.step_le_step slower faster call.timeNow range later
    exact ramped_moves _ _ _ _ _ _ (ramper.step_nonneg _ _ range later accel) (ramper.step_nonneg _ _ range later decel)
      ⟨longer _ _ accel (le_max_left _ _), longer _ _ decel (le_max_right _ _)⟩
      ⟨longer _ _ slowest (min_le_left _ _), longer _ _ slowest (min_le_right _ _)⟩

theorem Ready.next (call : RampCall K) (ready : ramper.Ready) (due : ramper.Due call) :
    (ramper.calculateOutput call).1.Ready ∧ (ramper.calculateOutput call).1.mPrevTime = call.timeNow := by
  obtain ⟨value, next, -⟩ := calculate_output_spec call ready due
  rw [next]
  exact ⟨⟨ready.accel, ready.decel, ready.range, fun zero => absurd zero due.2.ne'⟩, rfl⟩

theorem Ordered.next (call : RampCall K) (rest : List (RampCall K)) (ready : ramper.Ready)
    (ordered : ramper.Ordered (call :: rest)) : ramper.Due call ∧ (ramper.calculateOutput call).1.Ordered rest := by
  obtain ⟨pairwise, positive⟩ := ordered
  obtain ⟨first, others⟩ := List.pairwise_cons.mp pairwise
  obtain ⟨now, later⟩ := List.forall_mem_cons.mp positive
  have due : ramper.Due call := ⟨first _ List.mem_cons_self, now⟩
  refine ⟨due, ?_, later⟩
  rwa [(Ready.next call ready due).2]

omit [IsStrictOrderedRing K] in
theorem construct_ready (accelRampRate decelRampRate zeroValue maxValue : K) (accel : 0 < accelRampRate)
    (decel : 0 < decelRampRate) (range : zeroValue ≤ maxValue) :
    (construct accelRampRate decelRampRate zeroValue maxValue).Ready :=
  ⟨accel, decel, range, fun _ => rfl⟩

theorem Ready.run (calls later : List (RampCall K)) (ready : ramper.Ready) (ordered : ramper.Ordered (calls ++ later)) :
    ∃ time value, (runLog calculateOutput ramper calls).1 = { ramper with mPrevTime := time, mPrevValue := value } ∧
      (runLog calculateOutput ramper calls).1.Ready ∧ (runLog calculateOutput ramper calls).1.Ordered later := by
  induction calls generalizing ramper with
  | nil => exact ⟨_, _, rfl, ready, ordered⟩
  | cons call rest ih =>
      obtain ⟨due, remaining⟩ := Ordered.next call (rest ++ later) ready ordered
      obtain ⟨value, next, -⟩ := calculate_output_spec call ready due
      obtain ⟨time, reached, same, facts⟩ := ih (Ready.next call ready due).1 remaining
      refine ⟨time, reached, ?_, facts⟩
      rw [runLog, same, next]

omit [IsStrictOrderedRing K] in
theorem outputs_cons (call : RampCall K) (rest : List (RampCall K)) :
    ramper.outputs (call :: rest) = (ramper.calculateOutput call).2 :: (ramper.calculateOutput call).1.outputs rest :=
  rfl

omit [IsStrictOrderedRing K] in
theorem outputs_head (calls : List (RampCall K)) (fresh : ramper.mPrevTime = 0) :
    ∀ output ∈ (ramper.outputs calls).head?, output = 0 := by
  cases calls with
  | nil => exact fun _ => nofun
  | cons call rest =>
      intro output first
      injection first with first
      rw [← first, calculateOutput, if_neg (not_not.mpr fresh)]

theorem outputs_chain (calls : List (RampCall K)) (last : RampCall K) (ready : ramper.Ready) (ordered : ramper.Ordered calls)
    (since : ramper.mPrevTime = last.timeNow) (running : ramper.mPrevTime ≠ 0) :
    ((last, ramper.mPrevValue) :: calls.zip (ramper.outputs calls)).IsChain ramper.Within := by
  induction calls generalizing ramper last with
  | nil => exact List.isChain_singleton _
  | cons call rest ih =>
      obtain ⟨due, remaining⟩ := Ordered.next call rest ready ordered
      obtain ⟨readyNext, now⟩ := Ready.next call ready due
      obtain ⟨value, next, -, moves⟩ := calculate_output_spec call ready due
      have later := ih call readyNext remaining now (now ▸ due.2.ne')
      rw [outputs_cons, List.zip_cons_cons, List.isChain_cons_cons]
      rw [next] at later ⊢
      refine ⟨⟨(moves running).between, ?_⟩, later⟩
      rw [← since]
      exact (moves running).limited

theorem outputs_chain_start (calls : List (RampCall K)) (ready : ramper.Ready) (ordered : ramper.Ordered calls) :
    (calls.zip (ramper.outputs calls)).IsChain ramper.Within := by
  cases calls with
  | nil => exact List.isChain_nil
  | cons call rest =>
      obtain ⟨due, remaining⟩ := Ordered.next call rest ready ordered
      obtain ⟨readyNext, now⟩ := Ready.next call ready due
      obtain ⟨value, next, -⟩ := calculate_output_spec call ready due
      have chain := outputs_chain rest call readyNext remaining now (now ▸ due.2.ne')
      rw [outputs_cons, List.zip_cons_cons]
      rw [next] at chain ⊢
      exact chain

theorem outputs_mem (calls : List (RampCall K)) (region : Set K) (ready : ramper.Ready) (ordered : ramper.Ordered calls)
    (convex : Convex K region) (zero : 0 ∈ region) (targets : ∀ call ∈ calls, call.currValue ∈ region)
    (start : ramper.mPrevValue ∈ region) : ∀ output ∈ ramper.outputs calls, output ∈ region := by
  induction calls generalizing ramper with
  | nil => exact List.forall_mem_nil _
  | cons call rest ih =>
      obtain ⟨due, remaining⟩ := Ordered.next call rest ready ordered
      obtain ⟨value, next, first, moves⟩ := calculate_output_spec call ready due
      obtain ⟨target, others⟩ := List.forall_mem_cons.mp targets
      have inside : value ∈ region := by
        by_cases fresh : ramper.mPrevTime = 0
        · rwa [first fresh]
        · have between := (moves fresh).between
          rw [← segment_eq_uIcc] at between
          exact convex.segment_subset start target between
      have readyNext := (Ready.next call ready due).1
      rw [outputs_cons, List.forall_mem_cons]
      rw [next] at remaining readyNext ⊢
      exact ⟨inside, ih readyNext remaining others inside⟩

omit [LinearOrder K] [IsStrictOrderedRing K] [Field K] in
theorem held_succ (target : K) (times : ℕ → K) (n : ℕ) :
    held target times (n + 1) = held target times n ++ [⟨times n, target⟩] := by
  rw [held, List.range_succ, List.map_append]
  rfl

omit [IsStrictOrderedRing K] in
theorem Ordered.held (calls : List (RampCall K)) (target : K) (times : ℕ → K) (ordered : ramper.Ordered calls)
    (monotone : Monotone times) (since : ramper.mPrevTime ≤ times 0) (before : ∀ call ∈ calls, call.timeNow ≤ times 0)
    (positive : 0 < times 0) (n : ℕ) : ramper.Ordered (calls ++ held target times n) := by
  obtain ⟨pairwise, running⟩ := ordered
  have forward : ∀ call ∈ ValueRamper.held target times n, times 0 ≤ call.timeNow := by
    intro call asked
    obtain ⟨k, -, rfl⟩ := List.mem_map.mp asked
    exact monotone (Nat.zero_le k)
  have rising : ((ValueRamper.held target times n).map RampCall.timeNow).Pairwise (· ≤ ·) := by
    rw [ValueRamper.held, List.map_map]
    exact List.pairwise_map.mpr (List.pairwise_lt_range.imp fun earlier => monotone earlier.le)
  refine ⟨?_, ?_⟩
  · rw [List.map_append, ← List.cons_append, List.pairwise_append]
    refine ⟨pairwise, rising, ?_⟩
    intro early first late second
    obtain ⟨call, asked, rfl⟩ := List.mem_map.mp second
    obtain rfl | first := List.mem_cons.mp first
    · exact since.trans (forward call asked)
    · obtain ⟨earlier, seen, rfl⟩ := List.mem_map.mp first
      exact (before earlier seen).trans (forward call asked)
  · intro call asked
    obtain seen | asked := List.mem_append.mp asked
    · exact running call seen
    · exact positive.trans_le (forward call asked)

section Held

variable (calls : List (RampCall K)) (target : K) (times : ℕ → K) (ready : ramper.Ready)
  (ordered : ∀ n, ramper.Ordered (calls ++ held target times n))

include ready ordered

theorem held_call (n : ℕ) : ∃ value,
    runLog calculateOutput ramper (calls ++ held target times (n + 1)) =
      ({ ramper with mPrevTime := times n, mPrevValue := value }, ramper.outputs (calls ++ held target times n) ++ [value]) ∧
    let before := (runLog calculateOutput ramper (calls ++ held target times n)).1
    before.mPrevTime ≠ 0 →
      Moves target (before.step (max ramper.mAccelRampRate ramper.mDecelRampRate) (times n))
        (before.step (min ramper.mAccelRampRate ramper.mDecelRampRate) (times n)) before.mPrevValue value := by
  have whole := ordered (n + 1)
  rw [held_succ, ← List.append_assoc] at whole ⊢
  obtain ⟨time, reached, same, readyNow, orderedNow⟩ := Ready.run _ [⟨times n, target⟩] ready whole
  obtain ⟨value, next, -, moves⟩ := calculate_output_spec _ readyNow (Ordered.next _ [] readyNow orderedNow).1
  refine ⟨value, ?_, ?_⟩
  · rw [run_log_append, runLog, runLog, next, same]
    rfl
  · rw [same] at moves ⊢
    exact moves

theorem held_arrives (positive : ∀ n, 0 < times n) (wide : ramper.mZeroValue < ramper.mMaxValue)
    (unbounded : ∀ bound, ∃ n, bound < times n) :
    ∃ n, ∀ m, n ≤ m → (ramper.outputs (calls ++ held target times (m + 1))).getLast? = some target := by
  choose values ran moves using held_call calls target times ready ordered
  have moved : ∀ n, Moves target
      ((ramper.mMaxValue - ramper.mZeroValue) / max ramper.mAccelRampRate ramper.mDecelRampRate * (times (n + 1) - times n))
      ((ramper.mMaxValue - ramper.mZeroValue) * (times (n + 1) - times n) / min ramper.mAccelRampRate ramper.mDecelRampRate)
      (values n) (values (n + 1)) := by
    intro n
    have move := moves (n + 1)
    rw [ran n] at move
    rw [div_mul_eq_mul_div]
    exact move (positive n).ne'
  have rate : 0 < (ramper.mMaxValue - ramper.mZeroValue) / max ramper.mAccelRampRate ramper.mDecelRampRate :=
    div_pos (sub_pos.mpr wide) (lt_max_of_lt_left ready.accel)
  obtain ⟨n, arrived⟩ := arrives target _ values times _ moved rate unbounded
  refine ⟨n, fun m later => ?_⟩
  rw [outputs, ran m, List.getLast?_concat, arrived m later]

end Held

theorem never_overshoots (accelRampRate decelRampRate zeroValue maxValue : K) (accel : 0 < accelRampRate)
    (decel : 0 < decelRampRate) (range : zeroValue ≤ maxValue) (calls : List (RampCall K))
    (ordered : (calls.map RampCall.timeNow).Pairwise (· ≤ ·)) (positive : ∀ call ∈ calls, 0 < call.timeNow) :
    let ramper := construct accelRampRate decelRampRate zeroValue maxValue
    let outputs := ramper.outputs calls
    (outputs.length = calls.length ∧ ∀ output ∈ outputs.head?, output = 0) ∧
      (calls.zip outputs).IsChain ramper.Within ∧
      (∀ output ∈ outputs, output ∈ convexHull K (insert 0 { value | ∃ call ∈ calls, call.currValue = value })) ∧
      (zeroValue < maxValue → ∀ (target : K) (times : ℕ → K), Monotone times → 0 < times 0 →
        (∀ call ∈ calls, call.timeNow ≤ times 0) → (∀ bound, ∃ n, bound < times n) →
        ∃ n, ∀ m, n ≤ m → (ramper.outputs (calls ++ held target times (m + 1))).getLast? = some target) := by
  intro ramper outputs
  have ready : ramper.Ready := construct_ready _ _ _ _ accel decel range
  have inOrder : ramper.Ordered calls := by
    refine ⟨List.pairwise_cons.mpr ⟨?_, ordered⟩, positive⟩
    intro time asked
    obtain ⟨call, seen, rfl⟩ := List.mem_map.mp asked
    exact (positive call seen).le
  refine ⟨⟨run_log_length _ _ _, outputs_head calls rfl⟩, ?_, ?_, ?_⟩
  · exact outputs_chain_start calls ready inOrder
  · have zero : 0 ∈ convexHull K (insert 0 { value | ∃ call ∈ calls, call.currValue = value }) :=
      subset_convexHull K _ (Or.inl rfl)
    apply outputs_mem calls _ ready inOrder (convex_convexHull K _) zero _ zero
    intro call seen
    exact subset_convexHull K _ (Or.inr ⟨call, seen, rfl⟩)
  · intro wide target times monotone start before unbounded
    exact held_arrives calls target times ready (inOrder.held calls target times monotone start.le before start)
      (fun n => start.trans_le (monotone (Nat.zero_le n))) wide unbounded

theorem never_overshoots_stopping :
    let ramper := construct (1 : ℚ) 2 0 1
    (stopFromReverse.zip (ramper.outputs stopFromReverse)).IsChain ramper.Within ∧
      ∃ n, ∀ m, n ≤ m →
        (ramper.outputs (stopFromReverse ++ held (1 : ℚ) (fun k : ℕ => (k : ℚ) + 5) (m + 1))).getLast? = some 1 := by
  obtain ⟨-, chain, -, arrives⟩ :=
    never_overshoots (1 : ℚ) 2 0 1 (by decide) (by decide) (by decide) stopFromReverse (by decide) (by decide)
  refine ⟨chain, arrives (by decide) 1 (fun k : ℕ => (k : ℚ) + 5) ?_ (by norm_num) ?_ ?_⟩
  · exact fun early late before => add_le_add_left (Nat.cast_le.mpr before) 5
  · norm_num [stopFromReverse]
  · intro bound
    obtain ⟨n, above⟩ := exists_nat_gt bound
    exact ⟨n, above.trans_le (le_add_of_nonneg_right (by norm_num))⟩

end ValueRamper

end RioPassthru
