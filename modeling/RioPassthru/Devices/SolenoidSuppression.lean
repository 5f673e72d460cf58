import RioPassthru.Devices.SolenoidReports

set_option autoImplicit false

namespace RioPassthru

-- lastApplied and leftover are ghost data: the message whose solenoids were last applied
-- with the time of that, and whether mPrevSolenoidMsg is another one: the default one, what
-- a malformed buffer has left, or one from before a run that an exception ended midway.
structure SolenoidHistory where
  world : SolenoidWorld
  lastApplied : Option (SolenoidControl × UInt64)
  leftover : Bool

namespace SolenoidHistory

def start (mCompressor : Bool) (timeNow : UInt64) : SolenoidHistory := ⟨.start mCompressor timeNow, none, true⟩

variable (numbers : SolenoidNumbers) (history : SolenoidHistory)

def outcome (input : SolenoidInput) : SolenoidOutcome := (history.world.task.run numbers history.world.pneumatics input).outcome

def step (input : SolenoidInput) : SolenoidHistory :=
  let world := history.world.step numbers (.run input)
  match history.outcome numbers input with
  | .idle => ⟨world, history.lastApplied, history.leftover⟩
  | .malformed _ => ⟨world, history.lastApplied, true⟩
  | .thrown => ⟨world, history.lastApplied, history.leftover⟩
  | .skipped _ => ⟨world, history.lastApplied, history.leftover⟩
  | .applied solenoidUpdate _ true => ⟨world, some (solenoidUpdate, input.timeStarted), false⟩
  | .applied _ [] false => ⟨world, history.lastApplied, history.leftover⟩
  | .applied solenoidUpdate (_ :: _) false => ⟨world, some (solenoidUpdate, input.timeNow), true⟩

def InForce (solenoidUpdate : SolenoidControl) (timeNow : UInt64) : Prop :=
  ∃ message time, history.lastApplied = some (message, time) ∧ message.equivalent solenoidUpdate = true ∧
    timeNow.toNat ≤ time.toNat + 200000

def SkipsOnlyInForce (input : SolenoidInput) : Prop :=
  ∀ solenoidUpdate, history.outcome numbers input = .skipped solenoidUpdate → history.InForce solenoidUpdate input.timeNow

-- A message that repeats a leftover one in time is in force all the same.
def LeftoverInForce (input : SolenoidInput) : Prop :=
  ∀ solenoidUpdate, input.update = some (solenoidUpdate, true) → history.leftover = true →
    history.world.task.updateCompressor input solenoidUpdate ≠ none →
    solenoidUpdate.equivalent history.world.task.mPrevSolenoidMsg = true →
    input.timeNow - history.world.task.rtTimer ≤ ApplySolenoidValuesTask.kMandatoryUpdatePerioduS →
    history.InForce solenoidUpdate input.timeNow

def Remembers : Prop :=
  history.leftover = false →
    history.lastApplied = some (history.world.task.mPrevSolenoidMsg, history.world.task.rtTimer)

end SolenoidHistory

namespace ApplySolenoidValuesTask

variable (numbers : SolenoidNumbers) (task : ApplySolenoidValuesTask) (pneumatics : Pneumatics) (input : SolenoidInput)

theorem due_eq_false_iff (solenoidUpdate : SolenoidControl) : task.due input solenoidUpdate = false ↔
    solenoidUpdate.equivalent task.mPrevSolenoidMsg = true ∧ input.timeNow - task.rtTimer ≤ kMandatoryUpdatePerioduS := by
  rw [due, Bool.or_eq_false_iff, Bool.not_eq_false', decide_eq_false_iff_not, UInt64.not_lt]

theorem run_skipped_iff (solenoidUpdate : SolenoidControl) :
    (task.run numbers pneumatics input).outcome = .skipped solenoidUpdate ↔
      input.update = some (solenoidUpdate, true) ∧ task.updateCompressor input solenoidUpdate ≠ none ∧
        solenoidUpdate.equivalent task.mPrevSolenoidMsg = true ∧ input.timeNow - task.rtTimer ≤ kMandatoryUpdatePerioduS := by
  rw [← due_eq_false_iff, run]
  split
  · rename_i absent
    simp [absent]
  · rename_i malformed update
    simp [update]
  · rename_i parsed update
    cases updated : task.updateCompressor input parsed with
    | none =>
        refine iff_of_false SolenoidOutcome.noConfusion ?_
        intro skipped
        obtain ⟨rfl, _⟩ := Prod.mk.inj (Option.some.inj (update.symm.trans skipped.1))
        exact skipped.2.1 updated
    | some ready =>
        cases due : task.due input parsed with
        | true =>
            refine iff_of_false SolenoidOutcome.noConfusion ?_
            intro skipped
            obtain ⟨rfl, _⟩ := Prod.mk.inj (Option.some.inj (update.symm.trans skipped.1))
            rw [due] at skipped
            exact Bool.noConfusion skipped.2.2
        | false =>
            refine ⟨?_, ?_⟩
            · intro same
              obtain rfl := SolenoidOutcome.skipped.inj same
              exact ⟨update, by rw [updated]; exact Option.some_ne_none ready, due⟩
            · intro skipped
              obtain ⟨rfl, _⟩ := Prod.mk.inj (Option.some.inj (update.symm.trans skipped.1))
              rfl

def remembered : SolenoidOutcome → SolenoidControl × UInt64
  | .malformed solenoidUpdate => (solenoidUpdate, task.rtTimer)
  | .skipped solenoidUpdate => (solenoidUpdate, task.rtTimer)
  | .applied solenoidUpdate _ true => (solenoidUpdate, input.timeStarted)
  | _ => (task.mPrevSolenoidMsg, task.rtTimer)

theorem run_remembered : ((task.run numbers pneumatics input).task.mPrevSolenoidMsg, (task.run numbers pneumatics input).task.rtTimer) =
    task.remembered input (task.run numbers pneumatics input).outcome := by
  rw [run]
  split
  · rfl
  · rfl
  · rename_i parsed update
    cases updated : task.updateCompressor input parsed with
    | none => rfl
    | some ready =>
        obtain ⟨same, timer⟩ := update_compressor_memory task input parsed ready updated
        cases due : task.due input parsed with
        | true =>
            cases completed : (applySolenoids numbers input.frc 0 pneumatics parsed.solenoids).completed with
            | true => simp only [if_true, completed, remembered]
            | false => simp [completed, remembered, same, timer]
        | false => simp [remembered, timer]

end ApplySolenoidValuesTask

namespace SolenoidHistory

-- Unsigned subtraction: what is 200 ms after the start at most comes no later than that.
theorem in_time (timeNow started : UInt64) (early : timeNow - started ≤ ApplySolenoidValuesTask.kMandatoryUpdatePerioduS) :
    timeNow.toNat ≤ started.toNat + 200000 := by
  rw [UInt64.le_iff_toNat_le, UInt64.toNat_sub] at early
  have period : ApplySolenoidValuesTask.kMandatoryUpdatePerioduS.toNat = 200000 := rfl
  have now := timeNow.toNat_lt
  have before := started.toNat_lt
  omega

variable (numbers : SolenoidNumbers) (history : SolenoidHistory)

theorem remembers_step (input : SolenoidInput) (kept : history.Remembers) : (history.step numbers input).Remembers := by
  have remembered := ApplySolenoidValuesTask.run_remembered numbers history.world.task history.world.pneumatics input
  have remembers : ∀ lastApplied leftover,
      (⟨history.world.step numbers (.run input), lastApplied, leftover⟩ : SolenoidHistory).Remembers ↔
        (leftover = false → lastApplied = some (history.world.task.remembered input (history.outcome numbers input))) := by
    intro lastApplied leftover
    rw [outcome, ← remembered]
    rfl
  rw [step]
  cases ended : history.outcome numbers input with
  | idle => exact (remembers _ _).mpr (ended ▸ kept)
  | malformed solenoidUpdate => exact (remembers _ _).mpr fun fresh => Bool.noConfusion fresh
  | thrown => exact (remembers _ _).mpr (ended ▸ kept)
  | skipped solenoidUpdate =>
      have same := ((ApplySolenoidValuesTask.run_skipped_iff numbers history.world.task history.world.pneumatics input solenoidUpdate).mp ended).2.2.1
      rw [ended, ApplySolenoidValuesTask.remembered, of_decide_eq_true same] at remembers
      exact (remembers _ _).mpr kept
  | applied solenoidUpdate sets completed =>
      rw [ended] at remembers
      cases completed with
      | true => exact (remembers _ _).mpr fun _ => rfl
      | false =>
          cases sets with
          | nil => exact (remembers _ _).mpr kept
          | cons set rest => exact (remembers _ _).mpr fun fresh => Bool.noConfusion fresh

theorem skips_only_in_force_iff (input : SolenoidInput) (kept : history.Remembers) :
    history.SkipsOnlyInForce numbers input ↔ history.LeftoverInForce input := by
  have skipped := ApplySolenoidValuesTask.run_skipped_iff numbers history.world.task history.world.pneumatics input
  refine ⟨?_, ?_⟩
  · intro inForce solenoidUpdate update _ created same early
    exact inForce solenoidUpdate ((skipped solenoidUpdate).mpr ⟨update, created, same, early⟩)
  · intro inForce solenoidUpdate ended
    obtain ⟨update, created, same, early⟩ := (skipped solenoidUpdate).mp ended
    cases left : history.leftover with
    | true => exact inForce solenoidUpdate update left created same early
    | false =>
        refine ⟨_, _, kept left, ?_, in_time _ _ early⟩
        rw [SolenoidControl.equivalent, decide_eq_true_eq] at same ⊢
        exact same.symm

theorem suppression_iff (mCompressor : Bool) (timeNow : UInt64) (inputs : List SolenoidInput) :
    Runs.EachStep (step numbers) (SkipsOnlyInForce numbers) (start mCompressor timeNow) inputs ↔
      Runs.EachStep (step numbers) LeftoverInForce (start mCompressor timeNow) inputs :=
  Runs.each_step_iff_of_invariant (step numbers) Remembers _ _ (fun history input kept => skips_only_in_force_iff numbers history input kept)
    (fun history input kept _ => remembers_step numbers history input kept) inputs _ fun fresh => Bool.noConfusion fresh

end SolenoidHistory

def firstSolenoid (value : SolenoidValue) : SolenoidControl := ⟨[⟨⟨0, value⟩, .ctrePCM, .single⟩], true⟩

-- ON is applied, a malformed buffer leaves OFF in the message, and the OFF that follows is
-- taken for a repetition.
theorem malformed_buffer_suppresses :
    ¬ ∀ (numbers : SolenoidNumbers) (mCompressor : Bool) (timeNow : UInt64) (inputs : List SolenoidInput),
      Runs.EachStep (SolenoidHistory.step numbers) (SolenoidHistory.SkipsOnlyInForce numbers)
        (SolenoidHistory.start mCompressor timeNow) inputs := by
  intro always
  have clean := always castableNumbers false 0 [solenoidInput (firstSolenoid .on) true 20000, solenoidInput (firstSolenoid .off) false 40000,
    solenoidInput (firstSolenoid .off) true 60000]
  obtain ⟨message, time, applied, same, _⟩ := clean.2.2.1 (firstSolenoid .off)
    ((ApplySolenoidValuesTask.run_skipped_iff _ _ _ _ _).mpr ⟨rfl, by decide +kernel, by decide, by decide +kernel⟩)
  have last : some (firstSolenoid .on, 20000) = some (message, time) := applied
  obtain ⟨rfl, _⟩ := Prod.mk.inj (Option.some.inj last)
  revert same
  decide

end RioPassthru
