import RioPassthru.Lib.Binary32
import RioPassthru.Lib.Runs

set_option autoImplicit false

namespace RioPassthru

structure TaskTimer where
  startTimeuS : UInt64
deriving DecidableEq, Repr

namespace TaskTimer

-- timeNow is what HAL_GetFPGATime answers during the call.
def start (timeNow : UInt64) : TaskTimer := ⟨timeNow⟩

-- A float: the difference of the times, 0.001f and their product are each rounded.
def hasElapsedMs (timer : TaskTimer) (timeNow : UInt64) : ℚ :=
  Binary32.rounded (Binary32.rounded (timeNow - timer.startTimeuS).toNat * Binary32.rounded (1 / 1000))

theorem has_elapsed_ms_start (timeNow : UInt64) : (start timeNow).hasElapsedMs timeNow = 0 := by
  rw [hasElapsedMs, start, UInt64.sub_self]
  simp

theorem has_elapsed_ms_nonneg (timer : TaskTimer) (timeNow : UInt64) : 0 ≤ timer.hasElapsedMs timeNow := by
  apply Binary32.rounded_nonneg
  apply mul_nonneg
  · exact Binary32.rounded_nonneg _ (Nat.cast_nonneg _)
  · exact Binary32.rounded_nonneg _ (by norm_num)

end TaskTimer

structure TimeoutTimer where
  timeoutMs : ℚ
  firstRun : Bool
  taskTimer : TaskTimer
deriving DecidableEq, Repr

namespace TimeoutTimer

-- TaskTimer's own constructor starts a temporary, so startTimeuS keeps its initial 0.
def create (timeoutMs : ℚ) : TimeoutTimer := ⟨timeoutMs, true, ⟨0⟩⟩

def started (timer : TimeoutTimer) (timeNow : UInt64) : TimeoutTimer :=
  if timer.firstRun then { timer with taskTimer := .start timeNow, firstRun := false } else timer

def isTimedOut (timer : TimeoutTimer) (timeNow : UInt64) : TimeoutTimer × Bool :=
  let timer := timer.started timeNow
  (timer, decide (timer.taskTimer.hasElapsedMs timeNow > timer.timeoutMs))

def reset (timer : TimeoutTimer) : TimeoutTimer := { timer with firstRun := true }

@[simp] theorem started_timeout_ms (timer : TimeoutTimer) (timeNow : UInt64) :
    (timer.started timeNow).timeoutMs = timer.timeoutMs := by
  rw [started]
  split <;> rfl

@[simp] theorem started_first_run (timer : TimeoutTimer) (timeNow : UInt64) : (timer.started timeNow).firstRun = false := by
  rw [started]
  split
  · rfl
  · rename_i running
    exact Bool.eq_false_iff.mpr running

@[simp] theorem reset_timeout_ms (timer : TimeoutTimer) : timer.reset.timeoutMs = timer.timeoutMs := rfl

def TimedOut (timer : TimeoutTimer) (timeNow : UInt64) : Prop :=
  timer.firstRun = false ∧ timer.timeoutMs < timer.taskTimer.hasElapsedMs timeNow

-- A timer that the call itself starts shows no time yet.
theorem is_timed_out_iff (timer : TimeoutTimer) (timeNow : UInt64) (period : 0 ≤ timer.timeoutMs) :
    (timer.isTimedOut timeNow).2 = true ↔ timer.TimedOut timeNow := by
  rw [isTimedOut, decide_eq_true_iff, started_timeout_ms, TimedOut, started]
  cases timer.firstRun
  · exact ⟨fun elapsed => ⟨rfl, elapsed⟩, And.right⟩
  · simp only [if_true, TaskTimer.has_elapsed_ms_start]
    exact ⟨fun negative => absurd negative period.not_gt, fun running => nomatch running.1⟩

theorem is_timed_out_of_neg (timer : TimeoutTimer) (timeNow : UInt64) (negative : timer.timeoutMs < 0) :
    (timer.isTimedOut timeNow).2 = true := by
  rw [isTimedOut, decide_eq_true_iff, started_timeout_ms]
  exact negative.trans_le (TaskTimer.has_elapsed_ms_nonneg _ timeNow)

end TimeoutTimer

structure Evaluation (T : Type) where
  value : T
  time : UInt64
deriving DecidableEq, Repr

structure CacheCall (T : Type) where
  timeNow : UInt64
  update : T
deriving DecidableEq, Repr

def CacheCall.evaluation {T : Type} (call : CacheCall T) : Evaluation T := ⟨call.update, call.timeNow⟩

structure CachedValue (T : Type) where
  mTimeoutTimer : TimeoutTimer
  mCachedValue : Evaluation T
deriving DecidableEq, Repr

namespace CachedValue

variable {T : Type}

def create (updateTimeoutMs : ℚ) (construction : CacheCall T) : CachedValue T :=
  ⟨.create updateTimeoutMs, construction.evaluation⟩

def getValue (cached : CachedValue T) (call : CacheCall T) : CachedValue T × Evaluation T :=
  let asked := cached.mTimeoutTimer.isTimedOut call.timeNow
  if asked.2 then (⟨asked.1.reset, call.evaluation⟩, call.evaluation)
  else (⟨asked.1, cached.mCachedValue⟩, cached.mCachedValue)

def afterCall (cached : CachedValue T) (call : CacheCall T) : CachedValue T := (cached.getValue call).1

def NoOlderThan (updateTimeoutMs : ℚ) (evaluation : Evaluation T) (timeNow : UInt64) : Prop :=
  (timeNow.toNat : ℚ) / 1000 - updateTimeoutMs ≤ evaluation.time.toNat / 1000

instance (updateTimeoutMs : ℚ) (evaluation : Evaluation T) (timeNow : UInt64) :
    Decidable (NoOlderThan updateTimeoutMs evaluation timeNow) := inferInstanceAs (Decidable (_ ≤ _))

def ReturnsFresh (updateTimeoutMs : ℚ) (cached : CachedValue T) (call : CacheCall T) : Prop :=
  NoOlderThan updateTimeoutMs (cached.getValue call).2 call.timeNow

instance (updateTimeoutMs : ℚ) (cached : CachedValue T) (call : CacheCall T) :
    Decidable (ReturnsFresh updateTimeoutMs cached call) := inferInstanceAs (Decidable (NoOlderThan _ _ _))

structure CallsSince where
  evaluatedAt : UInt64
  times : List UInt64
deriving DecidableEq, Repr

namespace CallsSince

variable (updateTimeoutMs : ℚ) (calls : CallsSince)

-- The first of them has started the timer.
def Expired (timeNow : UInt64) : Prop := ∃ first ∈ calls.times.head?, updateTimeoutMs < (TaskTimer.start first).hasElapsedMs timeNow

instance (timeNow : UInt64) : Decidable (calls.Expired updateTimeoutMs timeNow) :=
  inferInstanceAs (Decidable (∃ first ∈ calls.times.head?, _))

def next (timeNow : UInt64) : CallsSince :=
  if calls.Expired updateTimeoutMs timeNow then ⟨timeNow, []⟩ else { calls with times := calls.times ++ [timeNow] }

-- A call later than the period after the evaluation is one that evaluates again.
def InTime (timeNow : UInt64) : Prop :=
  0 ≤ updateTimeoutMs ∧
    ((timeNow.toNat : ℚ) / 1000 - updateTimeoutMs ≤ calls.evaluatedAt.toNat / 1000 ∨ calls.Expired updateTimeoutMs timeNow)

end CallsSince

theorem get_value_of_timed_out (cached : CachedValue T) (call : CacheCall T)
    (timedOut : (cached.mTimeoutTimer.isTimedOut call.timeNow).2 = true) :
    (cached.getValue call).2 = call.evaluation := by
  rw [getValue, if_pos timedOut]

theorem get_value_of_in_time (cached : CachedValue T) (call : CacheCall T)
    (inTime : ¬ (cached.mTimeoutTimer.isTimedOut call.timeNow).2 = true) :
    (cached.getValue call).2 = cached.mCachedValue := by
  rw [getValue, if_neg inTime]

theorem after_call_cached_value (cached : CachedValue T) (call : CacheCall T) :
    (cached.afterCall call).mCachedValue = (cached.getValue call).2 := by
  rw [afterCall, getValue]
  split <;> rfl

theorem no_older_than_now (updateTimeoutMs : ℚ) (call : CacheCall T) :
    NoOlderThan updateTimeoutMs call.evaluation call.timeNow ↔ 0 ≤ updateTimeoutMs := by
  rw [NoOlderThan, CacheCall.evaluation]
  exact sub_le_self_iff _

structure Follows (updateTimeoutMs : ℚ) (cached : CachedValue T) (calls : CallsSince) : Prop where
  period : cached.mTimeoutTimer.timeoutMs = updateTimeoutMs
  evaluated : cached.mCachedValue.time = calls.evaluatedAt
  firstRun : cached.mTimeoutTimer.firstRun = true ↔ calls.times = []
  running : ∀ first ∈ calls.times.head?, cached.mTimeoutTimer.taskTimer = .start first

theorem timed_out_iff_expired (updateTimeoutMs : ℚ) (cached : CachedValue T) (calls : CallsSince)
    (follows : Follows updateTimeoutMs cached calls) (timeNow : UInt64) :
    cached.mTimeoutTimer.TimedOut timeNow ↔ calls.Expired updateTimeoutMs timeNow := by
  rw [TimeoutTimer.TimedOut, CallsSince.Expired, follows.period]
  cases since : calls.times with
  | nil =>
      rw [follows.firstRun.mpr since]
      simp
  | cons first rest =>
      have started : cached.mTimeoutTimer.firstRun = false := by
        rw [← Bool.not_eq_true, follows.firstRun, since]
        exact List.cons_ne_nil first rest
      rw [started, follows.running first (by rw [since, List.head?_cons]; rfl)]
      simp

theorem after_call_follows (updateTimeoutMs : ℚ) (nonneg : 0 ≤ updateTimeoutMs) (cached : CachedValue T) (calls : CallsSince)
    (call : CacheCall T) (follows : Follows updateTimeoutMs cached calls) :
    Follows updateTimeoutMs (cached.afterCall call) (calls.next updateTimeoutMs call.timeNow) := by
  have shown := (cached.mTimeoutTimer.is_timed_out_iff call.timeNow (follows.period.symm ▸ nonneg)).trans
    (timed_out_iff_expired updateTimeoutMs cached calls follows call.timeNow)
  rw [afterCall, getValue, CallsSince.next]
  by_cases expired : calls.Expired updateTimeoutMs call.timeNow
  · rw [if_pos (shown.mpr expired), if_pos expired]
    refine ⟨?_, rfl, iff_of_true rfl rfl, fun _ absent => nomatch absent⟩
    rw [TimeoutTimer.isTimedOut, TimeoutTimer.reset_timeout_ms, TimeoutTimer.started_timeout_ms, follows.period]
  · rw [if_neg fun timedOut => expired (shown.mp timedOut), if_neg expired]
    refine ⟨?_, follows.evaluated, ?_, ?_⟩
    · rw [TimeoutTimer.isTimedOut, TimeoutTimer.started_timeout_ms, follows.period]
    · rw [TimeoutTimer.isTimedOut, TimeoutTimer.started_first_run]
      simp
    · cases since : calls.times with
      | nil =>
          intro first member
          obtain rfl := Option.some.inj member
          rw [TimeoutTimer.isTimedOut, TimeoutTimer.started, if_pos (follows.firstRun.mpr since)]
      | cons earliest rest =>
          intro first member
          obtain rfl := Option.some.inj member
          have started : ¬ cached.mTimeoutTimer.firstRun = true := by
            rw [follows.firstRun, since]
            exact List.cons_ne_nil earliest rest
          rw [TimeoutTimer.isTimedOut, TimeoutTimer.started, if_neg started]
          exact follows.running earliest (by rw [since, List.head?_cons]; rfl)

theorem returns_fresh_iff (updateTimeoutMs : ℚ) (nonneg : 0 ≤ updateTimeoutMs) (cached : CachedValue T) (calls : CallsSince)
    (call : CacheCall T) (follows : Follows updateTimeoutMs cached calls) :
    ReturnsFresh updateTimeoutMs cached call ↔ calls.InTime updateTimeoutMs call.timeNow := by
  have shown := cached.mTimeoutTimer.is_timed_out_iff call.timeNow (follows.period.symm ▸ nonneg)
  rw [ReturnsFresh, CallsSince.InTime, and_iff_right nonneg, ← timed_out_iff_expired updateTimeoutMs cached calls follows]
  by_cases timedOut : (cached.mTimeoutTimer.isTimedOut call.timeNow).2 = true
  · rw [cached.get_value_of_timed_out call timedOut, no_older_than_now]
    exact iff_of_true nonneg (Or.inr (shown.mp timedOut))
  · rw [cached.get_value_of_in_time call timedOut, or_iff_left fun running => timedOut (shown.mpr running), NoOlderThan,
      follows.evaluated]

theorem create_follows (updateTimeoutMs : ℚ) (construction : CacheCall T) :
    Follows updateTimeoutMs (create updateTimeoutMs construction) ⟨construction.timeNow, []⟩ :=
  ⟨rfl, rfl, iff_of_true rfl rfl, fun _ absent => nomatch absent⟩

theorem never_fresh_of_neg (updateTimeoutMs : ℚ) (negative : updateTimeoutMs < 0) (construction call : CacheCall T) :
    ¬ ReturnsFresh updateTimeoutMs (create updateTimeoutMs construction) call := by
  rw [ReturnsFresh, get_value_of_timed_out _ call (TimeoutTimer.is_timed_out_of_neg _ call.timeNow negative), no_older_than_now]
  exact negative.not_ge

theorem run_cached_value (calls : List (CacheCall T)) (cached : CachedValue T) :
    (Runs.runSteps afterCall cached calls).mCachedValue = cached.mCachedValue ∨
      (Runs.runSteps afterCall cached calls).mCachedValue ∈ calls.map CacheCall.evaluation := by
  induction calls generalizing cached with
  | nil => exact Or.inl rfl
  | cons call rest ih =>
      rw [Runs.runSteps, List.map_cons, List.mem_cons]
      obtain same | later := ih (cached.afterCall call)
      · rw [same, after_call_cached_value]
        by_cases timedOut : (cached.mTimeoutTimer.isTimedOut call.timeNow).2 = true
        · exact Or.inr (Or.inl (cached.get_value_of_timed_out call timedOut))
        · exact Or.inl (cached.get_value_of_in_time call timedOut)
      · exact Or.inr (Or.inr later)

theorem cached_value_evaluated (updateTimeoutMs : ℚ) (construction : CacheCall T) (calls : List (CacheCall T)) :
    (Runs.runSteps afterCall (create updateTimeoutMs construction) calls).mCachedValue ∈
      (construction :: calls).map CacheCall.evaluation :=
  List.mem_cons.mpr (run_cached_value calls (create updateTimeoutMs construction))

theorem always_fresh_iff (updateTimeoutMs : ℚ) (construction : CacheCall T) (calls : List (CacheCall T)) :
    Runs.EachStep afterCall (ReturnsFresh updateTimeoutMs) (create updateTimeoutMs construction) calls ↔
      Runs.EachStep (CallsSince.next updateTimeoutMs) (CallsSince.InTime updateTimeoutMs) ⟨construction.timeNow, []⟩
        (calls.map CacheCall.timeNow) := by
  obtain negative | nonneg := lt_or_ge updateTimeoutMs 0
  · cases calls with
    | nil => exact Iff.rfl
    | cons call rest =>
        refine iff_of_false ?_ fun inTime => negative.not_ge inTime.1.1
        exact fun fresh => never_fresh_of_neg updateTimeoutMs negative construction call fresh.1
  · exact Runs.each_step_iff_of_simulation afterCall (CallsSince.next updateTimeoutMs) CacheCall.timeNow (Follows updateTimeoutMs)
      _ _ (returns_fresh_iff updateTimeoutMs nonneg) (after_call_follows updateTimeoutMs nonneg) calls _ _
      (create_follows updateTimeoutMs construction)

theorem ten_seconds_old : ¬ ∀ (updateTimeoutMs : ℚ) (construction : CacheCall Nat) (calls : List (CacheCall Nat)),
    0 ≤ updateTimeoutMs → ((construction :: calls).map CacheCall.timeNow).Pairwise (· ≤ ·) →
    Runs.EachStep afterCall (ReturnsFresh updateTimeoutMs) (create updateTimeoutMs construction) calls := by
  intro always
  have fresh := always 100 ⟨0, 1⟩ [⟨10000000, 2⟩] (by norm_num) (by decide)
  exact absurd fresh.1 (by decide +kernel)

end CachedValue

end RioPassthru
