import RioPassthru.Devices.SolenoidChannels
import RioPassthru.Devices.SolenoidReports

set_option autoImplicit false

namespace RioPassthru

-- A literal plus a number is the text of the literal from there on.
structure Diagnostic where
  literal : String
  offset : Nat
deriving DecidableEq, Repr

def Diagnostic.Inside (diagnostic : Diagnostic) : Prop := diagnostic.offset ≤ diagnostic.literal.length

instance (diagnostic : Diagnostic) : Decidable diagnostic.Inside := inferInstanceAs (Decidable (_ ≤ _))

namespace CKSolenoid

variable (numbers : SolenoidNumbers)

def invalidId : String := "Solenoid or PH ID is invalid. Cannot set invalid solenoid with ID"

def invalidSet : String := "Invalid solenoid set for ID: "

def diagnostic (solenoid : CKSolenoid) (value : SolenoidValue) : Option Diagnostic :=
  if solenoid.hasDriver then
    match solenoid.mSolenoidType with
    | .single | .double => if solenoid.written numbers value = none then some ⟨invalidSet, solenoid.mSolenoidId⟩ else none
    | .other _ => none
  else some ⟨invalidId, solenoid.mSolenoidId⟩

def takesValue (solenoidType : SolenoidType) (value : SolenoidValue) : Bool :=
  match solenoidType with
  | .single => value.equals numbers .on || value.equals numbers .off
  | .double => value.equals numbers .off || value.equals numbers .forward || value.equals numbers .reverse
  | .other _ => false

-- What the ids and the type fixed at the registration leave to an id that is reported.
def DiagnosticFits (moduleType : SolenoidModuleType) (id : Nat) (solenoidType : SolenoidType) (value : SolenoidValue) : Prop :=
  if frcObject moduleType id solenoidType = none then id ≤ 65
  else takesValue numbers solenoidType value = false → id ≤ 29

def RegisteredUnder (solenoid : CKSolenoid) (id : Nat) : Prop :=
  solenoid = { built solenoid.mModuleType id solenoid.mSolenoidType with mValue := solenoid.mValue }

theorem built_cases (moduleType : SolenoidModuleType) (id : Nat) (solenoidType : SolenoidType) :
    frcObject moduleType id solenoidType = none ∧ built moduleType id solenoidType = unbuilt moduleType id solenoidType ∨
      frcObject moduleType id solenoidType ≠ none ∧
        (solenoidType = .single ∧
            built moduleType id solenoidType = { unbuilt moduleType id solenoidType with mSingleSolenoid := true } ∨
          solenoidType = .double ∧
            built moduleType id solenoidType = { unbuilt moduleType id solenoidType with mDoubleSolenoid := true }) := by
  rw [built]
  cases asked : frcObject moduleType id solenoidType with
  | none => exact Or.inl ⟨rfl, rfl⟩
  | some object =>
      refine Or.inr ⟨Option.some_ne_none object, ?_⟩
      rw [frcObject.eq_def] at asked
      dsimp only at asked
      split_ifs at asked
      cases solenoidType with
      | single =>
          rw [← Option.some.inj asked]
          exact Or.inl ⟨rfl, rfl⟩
      | double =>
          rw [← Option.some.inj asked]
          exact Or.inr ⟨rfl, rfl⟩
      | other number => cases asked

theorem invalid_id_inside_iff (id : Nat) : Diagnostic.Inside ⟨invalidId, id⟩ ↔ id ≤ 65 := by
  have length : invalidId.length = 65 := by decide
  rw [Diagnostic.Inside, length]

theorem invalid_set_inside_iff (id : Nat) : Diagnostic.Inside ⟨invalidSet, id⟩ ↔ id ≤ 29 := by
  have length : invalidSet.length = 29 := by decide
  rw [Diagnostic.Inside, length]

theorem diagnostic_of_driver (solenoid : CKSolenoid) (value : SolenoidValue)
    (driver : solenoid.mSolenoidType = .single ∧ solenoid.mSingleSolenoid = true ∨
      solenoid.mSolenoidType = .double ∧ solenoid.mDoubleSolenoid = true) :
    solenoid.diagnostic numbers value =
      if takesValue numbers solenoid.mSolenoidType value = false then some ⟨invalidSet, solenoid.mSolenoidId⟩ else none := by
  obtain ⟨kind, present⟩ | ⟨kind, present⟩ := driver
  · simp only [diagnostic, hasDriver, written, takesValue, kind, present, Bool.true_or, if_true, Bool.and_true]
    cases value.equals numbers .on || value.equals numbers .off <;> rfl
  · simp only [diagnostic, hasDriver, written, takesValue, kind, present, Bool.or_true, if_true, Bool.and_true]
    cases value.equals numbers .off || value.equals numbers .forward || value.equals numbers .reverse <;> rfl

theorem diagnostic_inside_iff (solenoid : CKSolenoid) (id : Nat) (value : SolenoidValue)
    (registered : solenoid.RegisteredUnder id) :
    (∀ diagnostic ∈ solenoid.diagnostic numbers value, diagnostic.Inside) ↔
      DiagnosticFits numbers solenoid.mModuleType id solenoid.mSolenoidType value := by
  rw [RegisteredUnder] at registered
  generalize solenoid.mModuleType = moduleType at registered ⊢
  generalize own : solenoid.mSolenoidType = solenoidType at registered ⊢
  generalize solenoid.mValue = stored at registered
  rw [DiagnosticFits]
  obtain ⟨asked, made⟩ | ⟨asked, made⟩ := built_cases moduleType id solenoidType
  · rw [if_pos asked, ← invalid_id_inside_iff, registered, made]
    exact ⟨fun all => all _ rfl, fun inside diagnostic reported => Option.some.inj reported ▸ inside⟩
  · have key : solenoid.mSolenoidId = id ∧ (solenoidType = .single ∧ solenoid.mSingleSolenoid = true ∨
        solenoidType = .double ∧ solenoid.mDoubleSolenoid = true) := by
      obtain ⟨kind, made⟩ | ⟨kind, made⟩ := made
      · rw [registered, made]
        exact ⟨rfl, Or.inl ⟨kind, rfl⟩⟩
      · rw [registered, made]
        exact ⟨rfl, Or.inr ⟨kind, rfl⟩⟩
    rw [← own] at key
    rw [if_neg asked, diagnostic_of_driver numbers solenoid value key.2, key.1, own, ← invalid_set_inside_iff]
    cases takesValue numbers solenoidType value <;> simp

end CKSolenoid

def registeredAs (pneumatics : Pneumatics) (s : SolenoidUpdate) : SolenoidModuleType × SolenoidType :=
  match pneumatics.solenoids.mRegisteredSolenoidList[uint32 s.id]? with
  | some sCtrl => (sCtrl.mModuleType, sCtrl.mSolenoidType)
  | none => (s.moduleType, s.solenoidType)

def EntryFits (numbers : SolenoidNumbers) (pneumatics : Pneumatics) (s : SolenoidUpdate) : Prop :=
  CKSolenoid.DiagnosticFits numbers (registeredAs pneumatics s).1 (uint32 s.id) (registeredAs pneumatics s).2 s.outputValue

namespace ApplySolenoidValuesTask

variable (numbers : SolenoidNumbers)

def EntriesFit (frc : Nat → FrcPneumatics) (position : Nat) (pneumatics : Pneumatics) : List SolenoidUpdate → Prop
  | [] => True
  | s :: rest =>
      match applySolenoid numbers (frc position) pneumatics s with
      | none => True
      | some (next, _) => EntryFits numbers pneumatics s ∧ EntriesFit frc (position + 1) next rest

end ApplySolenoidValuesTask

namespace Pneumatics

def Registered (pneumatics : Pneumatics) : Prop :=
  ∀ (id : Nat) (sCtrl : CKSolenoid), pneumatics.solenoids.mRegisteredSolenoidList[id]? = some sCtrl → sCtrl.RegisteredUnder id

end Pneumatics

theorem CKSolenoid.set_registered (numbers : SolenoidNumbers) (solenoid : CKSolenoid) (id : Nat) (value : SolenoidValue)
    (registered : solenoid.RegisteredUnder id) : (solenoid.set numbers value).1.RegisteredUnder id := by
  rw [set]
  split
  · exact congrArg (fun left : CKSolenoid => { left with mValue := value }) registered
  · exact registered

theorem CKSolenoid.construct_registered (solenoid : CKSolenoid) (frc : FrcPneumatics) (moduleType : SolenoidModuleType)
    (id : Nat) (solenoidType : SolenoidType) (made : construct frc moduleType id solenoidType = some solenoid) :
    solenoid.RegisteredUnder id ∧ solenoid.mModuleType = moduleType ∧ solenoid.mSolenoidType = solenoidType := by
  rw [construct_eq] at made
  split_ifs at made
  obtain rfl := Option.some.inj made
  have fields : (built moduleType id solenoidType).mModuleType = moduleType ∧
      (built moduleType id solenoidType).mSolenoidType = solenoidType := by
    obtain ⟨-, same⟩ | ⟨-, ⟨-, same⟩ | ⟨-, same⟩⟩ := built_cases moduleType id solenoidType <;>
      rw [same] <;> exact ⟨rfl, rfl⟩
  refine ⟨?_, fields⟩
  rw [RegisteredUnder, fields.1, fields.2]

namespace ApplySolenoidValuesTask

variable (numbers : SolenoidNumbers)

theorem apply_solenoid_found (frc : FrcPneumatics) (pneumatics next : Pneumatics) (s : SolenoidUpdate) (sCtrl : CKSolenoid)
    (applied : applySolenoid numbers frc pneumatics s = some (next, sCtrl)) (registered : pneumatics.Registered) :
    sCtrl.RegisteredUnder (uint32 s.id) ∧ (sCtrl.mModuleType, sCtrl.mSolenoidType) = registeredAs pneumatics s := by
  rw [applySolenoid, Option.map_eq_some_iff] at applied
  obtain ⟨found, held, same⟩ := applied
  obtain rfl := (Prod.mk.inj same).2
  rw [SolenoidManager.register_solenoid_get] at held
  rw [registeredAs]
  cases known : pneumatics.solenoids.mRegisteredSolenoidList[uint32 s.id]? with
  | some present =>
      have listed : uint32 s.id ∈ pneumatics.solenoids.mRegisteredSolenoidList := by
        rw [Std.ExtTreeMap.mem_iff_isSome_getElem?, known, Option.isSome_some]
      rw [if_neg fun new => new.2 listed, known] at held
      obtain rfl := Option.some.inj held
      exact ⟨registered _ _ known, rfl⟩
  | none =>
      have new : uint32 s.id ∉ pneumatics.solenoids.mRegisteredSolenoidList := by
        rw [Std.ExtTreeMap.mem_iff_isSome_getElem?, known, Option.isSome_none]
        exact Bool.false_ne_true
      rw [if_pos ⟨rfl, new⟩] at held
      obtain ⟨kept, moduleType, solenoidType⟩ := CKSolenoid.construct_registered found _ _ _ _ held
      exact ⟨kept, Prod.ext moduleType solenoidType⟩

theorem apply_solenoid_registered (frc : FrcPneumatics) (pneumatics next : Pneumatics) (s : SolenoidUpdate) (sCtrl : CKSolenoid)
    (applied : applySolenoid numbers frc pneumatics s = some (next, sCtrl)) (registered : pneumatics.Registered) : next.Registered := by
  obtain ⟨before, -, stored, -, others⟩ := apply_solenoid_spec numbers frc pneumatics next s sCtrl applied
  have found := (apply_solenoid_found numbers frc pneumatics next s sCtrl applied registered).1
  intro id other held
  by_cases same : id = uint32 s.id
  · rw [same, stored] at held
    obtain rfl := Option.some.inj held
    exact same ▸ sCtrl.set_registered numbers _ s.outputValue found
  · rw [(others id same).1] at held
    exact registered id other held

def SetsInside (sets : List (CKSolenoid × SolenoidUpdate)) : Prop :=
  ∀ set ∈ sets, ∀ diagnostic ∈ set.1.diagnostic numbers set.2.outputValue, diagnostic.Inside

-- Induction along the entries, each one on the registry that the ones before it leave.
theorem apply_solenoids_inside_iff (frc : Nat → FrcPneumatics) (position : Nat) (entries : List SolenoidUpdate)
    (pneumatics : Pneumatics) (registered : pneumatics.Registered) :
    (SetsInside numbers (applySolenoids numbers frc position pneumatics entries).sets ↔ EntriesFit numbers frc position pneumatics entries) ∧
      (applySolenoids numbers frc position pneumatics entries).pneumatics.Registered := by
  induction entries generalizing position pneumatics with
  | nil => exact ⟨iff_of_true (List.forall_mem_nil _) trivial, registered⟩
  | cons s rest ih =>
      rw [applySolenoids, EntriesFit]
      cases applied : applySolenoid numbers (frc position) pneumatics s with
      | none => exact ⟨iff_of_true (List.forall_mem_nil _) trivial, registered⟩
      | some outcome =>
          obtain ⟨next, sCtrl⟩ := outcome
          obtain ⟨found, same⟩ := apply_solenoid_found numbers _ pneumatics next s sCtrl applied registered
          have kept := apply_solenoid_registered numbers _ pneumatics next s sCtrl applied registered
          obtain ⟨later, last⟩ := ih (position + 1) next kept
          refine ⟨?_, last⟩
          dsimp only
          rw [SetsInside, List.forall_mem_cons, ← later, EntryFits, ← same]
          exact and_congr_left fun _ => CKSolenoid.diagnostic_inside_iff numbers sCtrl _ _ found

end ApplySolenoidValuesTask

theorem ApplySolenoidValuesTask.run_outcome_iff (numbers : SolenoidNumbers) (task : ApplySolenoidValuesTask) (pneumatics : Pneumatics)
    (input : SolenoidInput) (solenoidUpdate : SolenoidControl) (sets : List (CKSolenoid × SolenoidUpdate)) (completed : Bool) :
    (task.run numbers pneumatics input).outcome = .applied solenoidUpdate sets completed ↔
      task.Applies input solenoidUpdate ∧
        sets = (applySolenoids numbers input.frc 0 pneumatics solenoidUpdate.solenoids).sets ∧
        completed = (applySolenoids numbers input.frc 0 pneumatics solenoidUpdate.solenoids).completed := by
  by_cases applies : ∃ other, task.Applies input other
  · obtain ⟨other, applies⟩ := applies
    rw [(run_applied numbers task pneumatics input other applies).2, SolenoidOutcome.applied.injEq]
    refine ⟨fun same => ?_, fun same => ?_⟩
    · obtain ⟨rfl, ran, ended⟩ := same
      exact ⟨applies, ran.symm, ended.symm⟩
    · obtain ⟨again, ran, ended⟩ := same
      obtain ⟨rfl, -⟩ := Prod.mk.inj (Option.some.inj (applies.1.symm.trans again.1))
      exact ⟨rfl, ran.symm, ended.symm⟩
  · apply iff_of_false ((run_not_applied numbers task pneumatics input (not_exists.mp applies)).2 _ _ _)
    intro same
    exact applies ⟨solenoidUpdate, same.1⟩

namespace SolenoidWorld

open ApplySolenoidValuesTask

variable (numbers : SolenoidNumbers) (world : SolenoidWorld)

def DiagnosticsInside (op : SolenoidOp) : Prop :=
  ∀ input, op = .run input →
    ∀ solenoidUpdate sets completed, (world.task.run numbers world.pneumatics input).outcome = .applied solenoidUpdate sets completed →
      SetsInside numbers sets

def AppliesFitting (op : SolenoidOp) : Prop :=
  ∀ input, op = .run input → ∀ solenoidUpdate, world.task.Applies input solenoidUpdate →
    EntriesFit numbers input.frc 0 world.pneumatics solenoidUpdate.solenoids

theorem diagnostics_inside_iff_fitting (op : SolenoidOp) (registered : world.pneumatics.Registered) :
    world.DiagnosticsInside numbers op ↔ world.AppliesFitting numbers op := by
  apply forall₃_congr
  intro input _ solenoidUpdate
  have inside := (apply_solenoids_inside_iff numbers input.frc 0 solenoidUpdate.solenoids world.pneumatics registered).1
  simp only [run_outcome_iff]
  refine ⟨fun all applies => ?_, fun all sets completed applied => ?_⟩
  · exact inside.mp (all _ _ ⟨applies, rfl, rfl⟩)
  · rw [applied.2.1]
    exact inside.mpr (all applied.1)

theorem registered_step (op : SolenoidOp) (registered : world.pneumatics.Registered) :
    (world.step numbers op).pneumatics.Registered :=
  step_keeps numbers world Pneumatics.Registered
    (fun frc entries registered => (apply_solenoids_inside_iff numbers frc 0 entries world.pneumatics registered).2)
    (fun registered id sCtrl found => registered id sCtrl (Pneumatics.process_heartbeat_get _ id sCtrl found)) op registered

theorem start_registered (mCompressor : Bool) (timeNow : UInt64) : (start mCompressor timeNow).pneumatics.Registered := by
  intro id sCtrl found
  simp [start, Pneumatics.empty, SolenoidManager.empty] at found

theorem diagnostics_inside_iff (mCompressor : Bool) (timeNow : UInt64) (ops : List SolenoidOp) :
    Runs.EachStep (step numbers) (DiagnosticsInside numbers) (start mCompressor timeNow) ops ↔
      Runs.EachStep (step numbers) (AppliesFitting numbers) (start mCompressor timeNow) ops :=
  Runs.each_step_iff_of_invariant (step numbers) (fun world => world.pneumatics.Registered) _ _
    (fun world op registered => diagnostics_inside_iff_fitting numbers world op registered)
    (fun world op registered _ => registered_step numbers world op registered) ops _ (start_registered mCompressor timeNow)

end SolenoidWorld

-- A CTRE PCM has no channel 100, so the solenoid gets no driver.
def channelHundred : SolenoidUpdate := ⟨⟨100, .off⟩, .ctrePCM, .single⟩

theorem diagnostic_behind_literal :
    ¬ ∀ (numbers : SolenoidNumbers) (mCompressor : Bool) (timeNow : UInt64) (ops : List SolenoidOp),
      Runs.EachStep (SolenoidWorld.step numbers) (SolenoidWorld.DiagnosticsInside numbers)
        (SolenoidWorld.start mCompressor timeNow) ops := by
  intro always
  have inside := (always castableNumbers false 0 [.run (solenoidInput ⟨[channelHundred], true⟩ true 20000)]).1 _ rfl
    ⟨[channelHundred], true⟩ _ true rfl
  rw [ApplySolenoidValuesTask.SetsInside] at inside
  revert inside
  decide +kernel

end RioPassthru
