import RioPassthru.Lib.Runs
import Mathlib

set_option autoImplicit false

-- Registrations that last for a number of ticks and can be renewed.
namespace Expiry

abbrev Beats := Std.ExtTreeMap Nat Int

def next (left : Int) : Option Int := if left - 1 ≤ 0 then none else some (left - 1)

def InRange (limit : Int) (beats : Beats) : Prop := ∀ (id : Nat) (left : Int), beats[id]? = some left → 1 ≤ left ∧ left ≤ limit

theorem next_in_range (limit before left : Int) (range : 1 ≤ before ∧ before ≤ limit) (lower : next before = some left) :
    1 ≤ left ∧ left ≤ limit := by
  rw [next] at lower
  split at lower
  · cases lower
  · injection lower with same
    omega

def turn (beats : Beats) (id : Nat) : Beats :=
  let left := beats.getD id 0 - 1
  if left ≤ 0 then (beats.insert id left).erase id else beats.insert id left

def pass (beats : Beats) : Beats := beats.keys.foldl turn beats

theorem mem_turn (beats : Beats) (id key : Nat) :
    key ∈ turn beats id ↔ key ∈ beats ∧ (key = id → ¬ beats.getD id 0 - 1 ≤ 0) := by
  by_cases expired : beats.getD id 0 - 1 ≤ 0
  · simp only [turn, if_pos expired, Std.ExtTreeMap.mem_erase, Std.ExtTreeMap.mem_insert, Std.LawfulEqCmp.compare_eq_iff_eq, ne_eq]
    grind
  · have held : id ∈ beats := by
      by_contra absent
      rw [Std.ExtTreeMap.getD_eq_fallback absent] at expired
      exact expired (by decide)
    simp only [turn, if_neg expired, Std.ExtTreeMap.mem_insert, Std.LawfulEqCmp.compare_eq_iff_eq]
    refine ⟨?_, fun found => Or.inr found.1⟩
    intro found
    obtain same | found := found
    · exact ⟨same ▸ held, fun _ => expired⟩
    · exact ⟨found, fun _ => expired⟩

theorem turn_get (beats : Beats) (id key : Nat) (held : id ∈ beats) :
    (turn beats id)[key]? = if key = id then beats[key]?.bind next else beats[key]? := by
  obtain ⟨left, found⟩ := Option.isSome_iff_exists.mp (Std.ExtTreeMap.mem_iff_isSome_getElem?.mp held)
  have value : beats.getD id 0 = left := by
    rw [Std.ExtTreeMap.getD_eq_getD_getElem?, found]
    rfl
  rw [turn, value]
  by_cases same : key = id
  · subst same
    rw [if_pos rfl, found, Option.bind_some, next]
    split <;> simp
  · rw [if_neg same]
    split <;> simp [Std.ExtTreeMap.getElem?_erase, Std.ExtTreeMap.getElem?_insert, Ne.symm same]

theorem turn_absent (beats : Beats) (id : Nat) (absent : id ∉ beats) : turn beats id = beats := by
  rw [turn, Std.ExtTreeMap.getD_eq_fallback absent]
  apply Std.ExtTreeMap.ext_getElem?
  intro key
  have missing := Std.ExtTreeMap.getElem?_eq_none absent
  by_cases same : id = key
  · subst same
    simp [missing]
  · simp [Std.ExtTreeMap.getElem?_erase, Std.ExtTreeMap.getElem?_insert, same]

theorem turn_in_range (limit : Int) (beats : Beats) (kept : InRange limit beats) (id : Nat) : InRange limit (turn beats id) := by
  intro key left found
  by_cases held : id ∈ beats
  · rw [turn_get beats id key held] at found
    split at found
    · obtain ⟨before, entry, lower⟩ := Option.bind_eq_some_iff.mp found
      exact next_in_range limit before left (kept key before entry) lower
    · exact kept key left found
  · rw [turn_absent beats id held] at found
    exact kept key left found

theorem fold_turns_get (ids : List Nat) (distinct : ids.Nodup) (beats : Beats) (held : ∀ id ∈ ids, id ∈ beats) (key : Nat) :
    (ids.foldl turn beats)[key]? = if key ∈ ids then beats[key]?.bind next else beats[key]? := by
  induction ids generalizing beats with
  | nil => rfl
  | cons id rest ih =>
      obtain ⟨fresh, distinctRest⟩ := List.nodup_cons.mp distinct
      obtain ⟨here, heldRest⟩ := List.forall_mem_cons.mp held
      have kept : ∀ other ∈ rest, other ∈ turn beats id := by
        intro other member
        have apart : other ≠ id := fun same => fresh (same ▸ member)
        rw [Std.ExtTreeMap.mem_iff_isSome_getElem?, turn_get beats id other here, if_neg apart,
          ← Std.ExtTreeMap.mem_iff_isSome_getElem?]
        exact heldRest other member
      rw [List.foldl_cons, ih distinctRest (turn beats id) kept, turn_get beats id key here]
      by_cases same : key = id
      · subst same
        simp [fresh]
      · simp [same]

theorem pass_get (beats : Beats) (key : Nat) : (pass beats)[key]? = beats[key]?.bind next := by
  rw [pass, fold_turns_get _ Std.ExtTreeMap.nodup_keys beats (fun id listed => Std.ExtTreeMap.mem_keys.mp listed)]
  by_cases listed : key ∈ beats
  · rw [if_pos (Std.ExtTreeMap.mem_keys.mpr listed)]
  · rw [if_neg (fun member => listed (Std.ExtTreeMap.mem_keys.mp member)), Std.ExtTreeMap.getElem?_eq_none listed]
    rfl

def nextKey (beats : Beats) (id : Nat) : Option Nat := beats.keys.find? fun key => id < key

section Loop

variable {State : Type} (visit : State → Nat → State) (beats : State → Beats)

-- A loop with an iterator, where a visit may erase the entry the iterator is at; none is
-- the end of the map.
def iterate : Nat → Option Nat → State → State
  | fuel + 1, some id, state => iterate fuel (nextKey (beats (visit state id)) id) (visit state id)
  | _, _, state => state

def loop (state : State) : State := iterate visit beats (beats state).size (beats state).keys.head? state

theorem loop_invariant (inv : State → Prop) (visited : ∀ state id, inv state → inv (visit state id)) (state : State)
    (start : inv state) : inv (loop visit beats state) := by
  rw [loop]
  generalize (beats state).size = fuel
  generalize (beats state).keys.head? = place
  induction fuel generalizing place state with
  | zero => exact start
  | succ fuel ih =>
      cases place with
      | none => exact start
      | some id => exact ih (visit state id) (visited state id start) _

theorem keys_ascending (beats : Beats) : beats.keys.Pairwise (· < ·) :=
  Std.ExtTreeMap.ordered_keys.imp Nat.compare_eq_lt.mp

theorem next_key_eq (beats : Beats) (id : Nat) (rest : List Nat) (ascending : rest.Pairwise (· < ·))
    (same : ∀ key, key ∈ rest ↔ key ∈ beats ∧ id < key) : nextKey beats id = rest.head? := by
  have filtered : (beats.keys.filter fun key => id < key) = rest := by
    refine List.Pairwise.eq_of_mem_iff ((keys_ascending beats).filter _) ascending ?_
    intro key
    rw [List.mem_filter, Std.ExtTreeMap.mem_keys, decide_eq_true_eq, same]
  rw [nextKey, ← List.head?_filter, filtered]

variable (turns : ∀ state id, beats (visit state id) = turn (beats state) id)

include turns

-- Induction along the keys the iterator has still to meet: the visit of a key leaves the
-- larger ones.
theorem iterate_eq_fold (rest : List Nat) (id : Nat) (state : State) (ascending : (id :: rest).Pairwise (· < ·))
    (same : ∀ key, key ∈ rest ↔ key ∈ beats state ∧ id < key) (fuel : Nat) (enough : rest.length < fuel) :
    iterate visit beats fuel (some id) state = rest.foldl visit (visit state id) := by
  induction rest generalizing id state fuel with
  | nil =>
      obtain ⟨fuel, rfl⟩ := Nat.exists_eq_add_one.mpr enough
      have stop : nextKey (beats (visit state id)) id = none := by
        refine next_key_eq _ id [] List.Pairwise.nil fun key => ?_
        rw [same, turns, mem_turn]
        grind
      rw [iterate, stop]
      cases fuel <;> rfl
  | cons second rest ih =>
      obtain ⟨fuel, rfl⟩ := Nat.exists_eq_add_one.mpr (Nat.zero_lt_of_lt enough)
      obtain ⟨above, later⟩ := List.pairwise_cons.mp ascending
      have larger := above second List.mem_cons_self
      have left : ∀ key, key ∈ second :: rest ↔ key ∈ beats (visit state id) ∧ id < key := by
        intro key
        rw [same, turns, mem_turn]
        grind
      have next : nextKey (beats (visit state id)) id = some second := next_key_eq _ id (second :: rest) later left
      rw [iterate, next, List.foldl_cons]
      refine ih second (visit state id) later ?_ fuel (Nat.lt_of_succ_lt_succ enough)
      intro key
      have held := left key
      have beyond := (List.pairwise_cons.mp later).1 key
      rw [List.mem_cons] at held
      grind

theorem loop_eq_fold (state : State) : loop visit beats state = (beats state).keys.foldl visit state := by
  have size : (beats state).keys.length = (beats state).size := Std.ExtTreeMap.length_keys
  have ascending := keys_ascending (beats state)
  have known := fun key => (Std.ExtTreeMap.mem_keys (t := beats state) (k := key))
  rw [loop, ← size]
  cases listed : (beats state).keys with
  | nil => rfl
  | cons id rest =>
      rw [listed] at ascending known
      refine iterate_eq_fold visit beats turns rest id state ascending ?_ _ (Nat.lt_succ_self _)
      intro key
      have held := known key
      have above := (List.pairwise_cons.mp ascending).1 key
      rw [List.mem_cons] at held
      grind

theorem loop_beats (state : State) : beats (loop visit beats state) = pass (beats state) := by
  have folded : ∀ (ids : List Nat) (state : State), beats (ids.foldl visit state) = ids.foldl turn (beats state) := by
    intro ids
    induction ids with
    | nil => exact fun _ => rfl
    | cons id rest ih =>
        intro state
        rw [List.foldl_cons, ih, turns]
        rfl
  rw [loop_eq_fold visit beats turns]
  exact folded _ state

end Loop

section Registration

variable {State : Type} (drop : State → Nat → State) (setBeats : State → Beats → State)
  (registered : State → Nat → Prop) (beats : State → Beats)

def visit (state : State) (id : Nat) : State :=
  if (beats state).getD id 0 - 1 ≤ 0 then setBeats (drop state id) (turn (beats state) id)
  else setBeats state (turn (beats state) id)

theorem visit_eq (state : State) (id : Nat) :
    visit drop setBeats beats state id =
      let left := (beats state).getD id 0 - 1
      if left ≤ 0 then setBeats (drop state id) (((beats state).insert id left).erase id)
      else setBeats state ((beats state).insert id left) := by
  by_cases expired : (beats state).getD id 0 - 1 ≤ 0
  · simp only [visit, turn, if_pos expired]
  · simp only [visit, turn, if_neg expired]

structure Drops : Prop where
  set : ∀ state after, beats (setBeats state after) = after
  kept : ∀ state after key, registered (setBeats state after) key ↔ registered state key
  dropped : ∀ state id key, registered (drop state id) key ↔ registered state key ∧ key ≠ id

variable {drop setBeats registered beats} (drops : Drops drop setBeats registered beats)

include drops

theorem visit_beats (state : State) (id : Nat) : beats (visit drop setBeats beats state id) = turn (beats state) id := by
  rw [visit]
  split <;> exact drops.set _ _

theorem visit_listed (state : State) (id : Nat) (listed : ∀ key, registered state key ↔ key ∈ beats state) (key : Nat) :
    registered (visit drop setBeats beats state id) key ↔ key ∈ beats (visit drop setBeats beats state id) := by
  rw [visit_beats drops, mem_turn, visit]
  split
  · rename_i expired
    rw [drops.kept, drops.dropped, listed]
    exact and_congr_right fun _ => ⟨fun other same => absurd same other, fun fresh same => fresh same expired⟩
  · rename_i alive
    rw [drops.kept, listed]
    exact ⟨fun held => ⟨held, fun _ => alive⟩, And.left⟩

theorem loop_listed (state : State) (listed : ∀ key, registered state key ↔ key ∈ beats state) (key : Nat) :
    registered (loop (visit drop setBeats beats) beats state) key ↔ key ∈ beats (loop (visit drop setBeats beats) beats state) := by
  rw [loop_eq_fold _ _ (visit_beats drops)]
  generalize (beats state).keys = ids
  induction ids generalizing state with
  | nil => exact listed key
  | cons id rest ih => exact ih (visit drop setBeats beats state id) (visit_listed drops state id listed)

theorem loop_only_drops (state : State) (key : Nat) (held : registered (loop (visit drop setBeats beats) beats state) key) :
    registered state key := by
  refine loop_invariant _ _ (fun later => registered later key → registered state key) ?_ state id held
  intro later id shrunk visited
  rw [visit] at visited
  split at visited
  · exact shrunk ((drops.dropped later id key).mp ((drops.kept _ _ key).mp visited)).1
  · exact shrunk ((drops.kept _ _ key).mp visited)

end Registration

inductive Op (Args : Type) where
  | register (id : Nat) (args : Args)
  | tick

def Op.isTick {Args : Type} : Op Args → Bool
  | .tick => true
  | _ => false

def ticks {Args : Type} (ops : List (Op Args)) : Nat := ops.countP Op.isTick

section Registry

variable {State Args : Type} (step : State → Op Args → State) (registered : State → Nat → Prop) (beats : State → Beats)
  (accepted : State → Nat → Args → Prop) (limit : Int)

structure Rules : Prop where
  renewed : ∀ state id args, accepted state id args → beats (step state (.register id args)) = (beats state).insert id limit
  refused : ∀ state id args, ¬ accepted state id args → step state (.register id args) = state
  ticked : ∀ state, beats (step state .tick) = pass (beats state)
  listed : ∀ state op, (∀ key, registered state key ↔ key ∈ beats state) →
    ∀ key, registered (step state op) key ↔ key ∈ beats (step state op)

structure Exact (start : State) (ops : List (Op Args)) : Prop where
  present : ∀ id : Nat, registered (Runs.runSteps step start ops) id ↔
    ∃ before args after, ops = before ++ .register id args :: after ∧
      accepted (Runs.runSteps step start before) id args ∧ (ticks after : Int) < limit
  decremented : ∀ id : Nat, (beats (step (Runs.runSteps step start ops) .tick))[id]? =
    (beats (Runs.runSteps step start ops))[id]?.bind next
  apart : ∀ id args other, other ≠ id →
    (registered (step (Runs.runSteps step start ops) (.register id args)) other ↔
      registered (Runs.runSteps step start ops) other)

variable {step registered beats accepted limit} (rules : Rules step registered beats accepted limit)

include rules

theorem registered_iff_beats (ops : List (Op Args)) (state : State) (kept : ∀ key, registered state key ↔ key ∈ beats state) (key : Nat) :
    registered (Runs.runSteps step state ops) key ↔ key ∈ beats (Runs.runSteps step state ops) :=
  Runs.run_steps_invariant step (fun state => ∀ key, registered state key ↔ key ∈ beats state) rules.listed ops state kept key

theorem beats_other (state : State) (id other : Nat) (args : Args) (different : other ≠ id) :
    (beats (step state (.register id args)))[other]? = (beats state)[other]? := by
  by_cases taken : accepted state id args
  · rw [rules.renewed state id args taken, Std.ExtTreeMap.getElem?_insert]
    simp [Ne.symm different]
  · rw [rules.refused state id args taken]

theorem in_range_step (positive : 1 ≤ limit) (state : State) (op : Op Args) (kept : InRange limit (beats state)) :
    InRange limit (beats (step state op)) := by
  intro id left found
  cases op with
  | tick =>
      rw [rules.ticked, pass_get] at found
      obtain ⟨before, held, lower⟩ := Option.bind_eq_some_iff.mp found
      exact next_in_range limit before left (kept id before held) lower
  | register other args =>
      by_cases taken : accepted state other args
      · rw [rules.renewed state other args taken, Std.ExtTreeMap.getElem?_insert] at found
        split at found
        · injection found with same
          omega
        · exact kept id left found
      · rw [rules.refused state other args taken] at found
        exact kept id left found

omit rules in
theorem register_in_cons (id : Nat) (op : Op Args) (rest : List (Op Args)) (state : State) :
    (∃ before args after, op :: rest = before ++ .register id args :: after ∧
        accepted (Runs.runSteps step state before) id args ∧ (ticks after : Int) < limit) ↔
      (∃ before args after, rest = before ++ .register id args :: after ∧
        accepted (Runs.runSteps step (step state op) before) id args ∧ (ticks after : Int) < limit) ∨
      ∃ args, op = .register id args ∧ accepted state id args ∧ (ticks rest : Int) < limit := by
  refine ⟨?_, ?_⟩
  · intro found
    obtain ⟨before, args, after, split, taken, few⟩ := found
    cases before with
    | nil =>
        injection split with head tail
        exact Or.inr ⟨args, head, taken, tail ▸ few⟩
    | cons first others =>
        injection split with head tail
        subst head
        exact Or.inl ⟨others, args, after, tail, taken, few⟩
  · intro found
    obtain ⟨before, args, after, split, taken, few⟩ | ⟨args, same, taken, few⟩ := found
    · exact ⟨op :: before, args, after, congrArg (List.cons op) split, taken, few⟩
    · exact ⟨[], args, rest, congrArg (· :: rest) same, taken, few⟩

theorem left_after_tick (id : Nat) (rest : List (Op Args)) (state : State) :
    (∃ left, (beats (step state .tick))[id]? = some left ∧ (ticks rest : Int) < left) ↔
      ∃ left, (beats state)[id]? = some left ∧ (ticks (Op.tick :: rest : List (Op Args)) : Int) < left := by
  have count : (ticks (Op.tick :: rest : List (Op Args)) : Int) = ticks rest + 1 := by
    rw [ticks, List.countP_cons_of_pos rfl, Nat.cast_succ, ticks]
  rw [rules.ticked, pass_get, count]
  refine ⟨?_, ?_⟩
  · intro lowered
    obtain ⟨left, found, few⟩ := lowered
    obtain ⟨before, held, lower⟩ := Option.bind_eq_some_iff.mp found
    rw [next] at lower
    split at lower
    · cases lower
    · injection lower with same
      exact ⟨before, held, by omega⟩
  · intro present
    obtain ⟨left, held, few⟩ := present
    have more : ¬ left - 1 ≤ 0 := by omega
    exact ⟨left - 1, by rw [held, Option.bind_some, next, if_neg more], by omega⟩

theorem left_after_register (id other : Nat) (args : Args) (count : Int) (state : State) (range : InRange limit (beats state)) :
    (∃ left, (beats (step state (.register other args)))[id]? = some left ∧ count < left) ↔
      (other = id ∧ accepted state id args ∧ count < limit) ∨ ∃ left, (beats state)[id]? = some left ∧ count < left := by
  by_cases mine : other = id
  · subst mine
    by_cases taken : accepted state other args
    · rw [rules.renewed state other args taken, Std.ExtTreeMap.getElem?_insert_self]
      refine ⟨?_, ?_⟩
      · intro renewed
        obtain ⟨left, found, few⟩ := renewed
        injection found with same
        exact Or.inl ⟨rfl, taken, same ▸ few⟩
      · intro found
        obtain ⟨_, _, few⟩ | ⟨left, held, few⟩ := found
        · exact ⟨limit, rfl, few⟩
        · exact ⟨limit, rfl, Int.lt_of_lt_of_le few (range other left held).2⟩
    · rw [rules.refused state other args taken]
      exact ⟨Or.inr, fun found => found.resolve_left fun fresh => taken fresh.2.1⟩
  · rw [beats_other rules state other id args (Ne.symm mine)]
    exact ⟨Or.inr, fun found => found.resolve_left fun fresh => mine fresh.1⟩

theorem survives_iff (positive : 1 ≤ limit) (id : Nat) (ops : List (Op Args)) (state : State) (range : InRange limit (beats state)) :
    id ∈ beats (Runs.runSteps step state ops) ↔
      (∃ before args after, ops = before ++ .register id args :: after ∧
        accepted (Runs.runSteps step state before) id args ∧ (ticks after : Int) < limit) ∨
      ∃ left, (beats state)[id]? = some left ∧ (ticks ops : Int) < left := by
  induction ops generalizing state with
  | nil =>
      rw [Runs.runSteps, Std.ExtTreeMap.mem_iff_isSome_getElem?, Option.isSome_iff_exists]
      refine ⟨?_, ?_⟩
      · intro held
        obtain ⟨left, found⟩ := held
        have bound := range id left found
        exact Or.inr ⟨left, found, by simp [ticks]; omega⟩
      · intro found
        obtain ⟨before, args, after, split, _⟩ | ⟨left, held, _⟩ := found
        · cases before <;> cases split
        · exact ⟨left, held⟩
  | cons op rest ih =>
      rw [Runs.runSteps, ih (step state op) (in_range_step rules positive state op range), register_in_cons, or_assoc]
      refine or_congr Iff.rfl ?_
      cases op with
      | tick =>
          rw [left_after_tick rules]
          simp
      | register other args =>
          have count : ticks (Op.register other args :: rest) = ticks rest := by simp [ticks, Op.isTick]
          rw [count, left_after_register rules id other args _ state range]
          refine or_congr ?_ Iff.rfl
          refine ⟨?_, ?_⟩
          · intro fresh
            obtain ⟨rfl, taken, few⟩ := fresh
            exact ⟨args, rfl, taken, few⟩
          · intro fresh
            obtain ⟨_, ⟨⟩, taken, few⟩ := fresh
            exact ⟨rfl, taken, few⟩

theorem exact_of_rules (positive : 1 ≤ limit) (start : State) (empty : beats start = ∅)
    (kept : ∀ key, registered start key ↔ key ∈ beats start) (ops : List (Op Args)) :
    Exact step registered beats accepted limit start ops := by
  have range : InRange limit (beats start) := by
    intro id left found
    rw [empty] at found
    simp at found
  have known := registered_iff_beats rules ops start kept
  refine ⟨?_, ?_, ?_⟩
  · intro id
    rw [known, survives_iff rules positive id ops start range, empty]
    simp
  · intro id
    rw [rules.ticked, pass_get]
  · intro id args other different
    rw [rules.listed _ _ known, known, Std.ExtTreeMap.mem_iff_isSome_getElem?, Std.ExtTreeMap.mem_iff_isSome_getElem?,
      beats_other rules _ id other args different]

end Registry

end Expiry
