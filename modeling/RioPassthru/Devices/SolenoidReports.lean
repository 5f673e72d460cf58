import RioPassthru.Devices.SolenoidTasks

set_option autoImplicit false

namespace RioPassthru

open Protobuf

def SolenoidWrite.value : SolenoidWrite → Option SolenoidValue
  | .single true => some .on
  | .single false => some .off
  | .double .kOff => some .off
  | .double .kForward => some .forward
  | .double .kReverse => some .reverse
  | .double (.other _) => none

def writtenValue (hardware : Option SolenoidWrite) : Option SolenoidValue := hardware.elim (some .off) SolenoidWrite.value

namespace CKSolenoid

variable (numbers : SolenoidNumbers) (solenoid : CKSolenoid)

-- The values that are written as what they are named: the cast to the value of frc keeps
-- the number and not the name.
def Takes (value : SolenoidValue) : Prop :=
  solenoid.hasDriver = true →
    match solenoid.mSolenoidType with
    | .single => value.number numbers = numbers.on ∨ value.number numbers = numbers.off
    | .double =>
        value.number numbers = numbers.off ∧ numbers.off = 0 ∨ value.number numbers = numbers.forward ∧ numbers.forward = 1 ∨
          value.number numbers = numbers.reverse ∧ numbers.reverse = 2
    | .other _ => False

def Reports (hardware : Option SolenoidWrite) : Prop :=
  ∃ value, writtenValue hardware = some value ∧ solenoid.mValue.number numbers = value.number numbers

-- Without a driver nothing is stored or written, and a driver is of the type.
inductive Sound : CKSolenoid → Option SolenoidWrite → Prop where
  | idle (solenoid : CKSolenoid) (absent : solenoid.hasDriver = false) (off : solenoid.mValue = .off) : Sound solenoid none
  | single (solenoid : CKSolenoid) (hardware : Option Bool) (kind : solenoid.mSolenoidType = .single)
      (driver : solenoid.mSingleSolenoid = true) : Sound solenoid (hardware.map .single)
  | double (solenoid : CKSolenoid) (hardware : Option DoubleSolenoid.Value) (kind : solenoid.mSolenoidType = .double)
      (driver : solenoid.mDoubleSolenoid = true) : Sound solenoid (hardware.map .double)

theorem set_idle (value : SolenoidValue) (absent : solenoid.hasDriver = false) : solenoid.set numbers value = (solenoid, none) :=
  if_neg (Bool.eq_false_iff.mp absent)

theorem set_single (value : SolenoidValue) (kind : solenoid.mSolenoidType = .single) (driver : solenoid.mSingleSolenoid = true) :
    solenoid.set numbers value = ({ solenoid with mValue := value },
      if value.number numbers = numbers.on ∨ value.number numbers = numbers.off then
        some (.single (value.equals numbers .on)) else none) := by
  have accepted : ((value.equals numbers .on || value.equals numbers .off) && solenoid.mSingleSolenoid) = true ↔
      value.number numbers = numbers.on ∨ value.number numbers = numbers.off := by
    rw [driver, Bool.and_true, Bool.or_eq_true]
    exact Iff.or decide_eq_true_iff decide_eq_true_iff
  rw [set, hasDriver, if_pos (by rw [driver, Bool.true_or]), written]
  simp only [kind, accepted]

theorem set_double (value : SolenoidValue) (kind : solenoid.mSolenoidType = .double) (driver : solenoid.mDoubleSolenoid = true) :
    solenoid.set numbers value = ({ solenoid with mValue := value },
      if value.number numbers = numbers.off ∨ value.number numbers = numbers.forward ∨ value.number numbers = numbers.reverse then
        some (.double (.ofNumber (value.number numbers))) else none) := by
  have accepted : ((value.equals numbers .off || value.equals numbers .forward || value.equals numbers .reverse) &&
      solenoid.mDoubleSolenoid) = true ↔
      value.number numbers = numbers.off ∨ value.number numbers = numbers.forward ∨ value.number numbers = numbers.reverse := by
    rw [driver, Bool.and_true, Bool.or_eq_true, Bool.or_eq_true, or_assoc]
    exact Iff.or decide_eq_true_iff (Iff.or decide_eq_true_iff decide_eq_true_iff)
  rw [set, hasDriver, if_pos (by rw [driver, Bool.or_true]), written]
  simp only [kind, accepted]

theorem single_reports_iff (value : SolenoidValue) (hardware : Option Bool) :
    ({ solenoid with mValue := value } : CKSolenoid).Reports numbers
        ((if value.number numbers = numbers.on ∨ value.number numbers = numbers.off then
          some (SolenoidWrite.single (value.equals numbers .on)) else none).or (hardware.map .single)) ↔
      value.number numbers = numbers.on ∨ value.number numbers = numbers.off := by
  by_cases accepted : value.number numbers = numbers.on ∨ value.number numbers = numbers.off
  · rw [if_pos accepted]
    refine iff_of_true ?_ accepted
    by_cases on : value.number numbers = numbers.on
    · have equal : value.equals numbers .on = true := decide_eq_true on
      rw [equal]
      exact ⟨.on, rfl, on⟩
    · have unequal : value.equals numbers .on = false := decide_eq_false on
      rw [unequal]
      exact ⟨.off, rfl, accepted.resolve_left on⟩
  · rw [if_neg accepted, Option.none_or]
    refine iff_of_false ?_ accepted
    rintro ⟨name, written, same⟩
    cases hardware with
    | none =>
        obtain rfl := Option.some.inj written
        exact accepted (Or.inr same)
    | some on =>
        cases on with
        | true =>
            obtain rfl := Option.some.inj written
            exact accepted (Or.inl same)
        | false =>
            obtain rfl := Option.some.inj written
            exact accepted (Or.inr same)

theorem cast_value_iff (number : Int) (name : SolenoidValue) :
    (SolenoidWrite.double (.ofNumber number)).value = some name ↔
      number = 0 ∧ name = .off ∨ number = 1 ∧ name = .forward ∨ number = 2 ∧ name = .reverse := by
  rw [DoubleSolenoid.Value.ofNumber]
  split_ifs with off forward reverse
  · simp [SolenoidWrite.value, off, eq_comm]
  · simp [SolenoidWrite.value, forward, eq_comm]
  · simp [SolenoidWrite.value, reverse, eq_comm]
  · simp [SolenoidWrite.value, off, forward, reverse]

theorem double_reports_iff (value : SolenoidValue) (hardware : Option DoubleSolenoid.Value) :
    ({ solenoid with mValue := value } : CKSolenoid).Reports numbers
        ((if value.number numbers = numbers.off ∨ value.number numbers = numbers.forward ∨ value.number numbers = numbers.reverse then
          some (SolenoidWrite.double (.ofNumber (value.number numbers))) else none).or (hardware.map .double)) ↔
      value.number numbers = numbers.off ∧ numbers.off = 0 ∨ value.number numbers = numbers.forward ∧ numbers.forward = 1 ∨
        value.number numbers = numbers.reverse ∧ numbers.reverse = 2 := by
  by_cases accepted : value.number numbers = numbers.off ∨ value.number numbers = numbers.forward ∨
      value.number numbers = numbers.reverse
  · rw [if_pos accepted, Option.some_or]
    refine ⟨?_, ?_⟩
    · rintro ⟨name, written, same⟩
      obtain ⟨cast, rfl⟩ | ⟨cast, rfl⟩ | ⟨cast, rfl⟩ := (cast_value_iff _ name).mp written
      · exact Or.inl ⟨same, same.symm.trans cast⟩
      · exact Or.inr (Or.inl ⟨same, same.symm.trans cast⟩)
      · exact Or.inr (Or.inr ⟨same, same.symm.trans cast⟩)
    · rintro (⟨same, cast⟩ | ⟨same, cast⟩ | ⟨same, cast⟩)
      · exact ⟨.off, (cast_value_iff _ _).mpr (Or.inl ⟨same.trans cast, rfl⟩), same⟩
      · exact ⟨.forward, (cast_value_iff _ _).mpr (Or.inr (Or.inl ⟨same.trans cast, rfl⟩)), same⟩
      · exact ⟨.reverse, (cast_value_iff _ _).mpr (Or.inr (Or.inr ⟨same.trans cast, rfl⟩)), same⟩
  · rw [if_neg accepted, Option.none_or]
    refine iff_of_false ?_ fun taken => accepted (taken.imp And.left (Or.imp And.left And.left))
    rintro ⟨name, written, same⟩
    cases hardware with
    | none =>
        obtain rfl := Option.some.inj written
        exact accepted (Or.inl same)
    | some before =>
        cases before with
        | kOff =>
            obtain rfl := Option.some.inj written
            exact accepted (Or.inl same)
        | kForward =>
            obtain rfl := Option.some.inj written
            exact accepted (Or.inr (Or.inl same))
        | kReverse =>
            obtain rfl := Option.some.inj written
            exact accepted (Or.inr (Or.inr same))
        | other number => cases written

-- What set leaves agrees with what it writes iff the value is one that the driver takes.
theorem set_reported_iff (value : SolenoidValue) (hardware : Option SolenoidWrite) (sound : solenoid.Sound hardware) :
    (solenoid.set numbers value).1.Sound ((solenoid.set numbers value).2.or hardware) ∧
      ((solenoid.set numbers value).1.Reports numbers ((solenoid.set numbers value).2.or hardware) ↔
        solenoid.Takes numbers value) := by
  cases sound with
  | idle absent off =>
      rw [set_idle numbers solenoid value absent]
      refine ⟨.idle solenoid absent off, iff_of_true ⟨.off, rfl, by rw [off]⟩ ?_⟩
      exact fun driver => absurd (driver.symm.trans absent) (by decide)
  | single hardware kind driver =>
      have present : solenoid.hasDriver = true := by rw [hasDriver, driver, Bool.true_or]
      rw [set_single numbers solenoid value kind driver, single_reports_iff, Takes]
      refine ⟨?_, ?_⟩
      · split
        · exact .single _ (some (value.equals numbers .on)) kind driver
        · exact .single _ hardware kind driver
      · simp only [kind]
        exact ⟨fun taken _ => taken, fun taken => taken present⟩
  | double hardware kind driver =>
      have present : solenoid.hasDriver = true := by rw [hasDriver, driver, Bool.or_true]
      rw [set_double numbers solenoid value kind driver, double_reports_iff, Takes]
      refine ⟨?_, ?_⟩
      · split
        · exact .double _ (some (.ofNumber (value.number numbers))) kind driver
        · exact .double _ hardware kind driver
      · simp only [kind]
        exact ⟨fun taken _ => taken, fun taken => taken present⟩

theorem construct_cases (frc : FrcPneumatics) (moduleType : SolenoidModuleType) (id : Nat) (solenoidType : SolenoidType)
    (made : construct frc moduleType id solenoidType = some solenoid) :
    solenoid = ⟨moduleType, id, solenoidType, .off, false, false⟩ ∨
      solenoidType = .single ∧ solenoid = ⟨moduleType, id, .single, .off, true, false⟩ ∨
      solenoidType = .double ∧ solenoid = ⟨moduleType, id, .double, .off, false, true⟩ := by
  rw [construct.eq_def] at made
  cases solenoidType with
  | single => dsimp only at made; split_ifs at made <;> simp [← Option.some.inj made]
  | double => dsimp only at made; split_ifs at made <;> simp [← Option.some.inj made]
  | other number => dsimp only at made; split_ifs at made <;> simp [← Option.some.inj made]

theorem construct_sound (frc : FrcPneumatics) (moduleType : SolenoidModuleType) (id : Nat) (solenoidType : SolenoidType)
    (made : construct frc moduleType id solenoidType = some solenoid) : solenoid.Sound none := by
  obtain rfl | ⟨_, rfl⟩ | ⟨_, rfl⟩ := construct_cases solenoid frc moduleType id solenoidType made
  · exact .idle _ rfl rfl
  · exact .single _ none rfl rfl
  · exact .double _ none rfl rfl

end CKSolenoid

theorem SolenoidManager.register_solenoid_get (solenoids : SolenoidManager) (frc : FrcPneumatics)
    (moduleType : SolenoidModuleType) (id : Nat) (solenoidType : SolenoidType) (key : Nat) :
    (solenoids.registerSolenoid frc moduleType id solenoidType).mRegisteredSolenoidList[key]? =
      if key = id ∧ id ∉ solenoids.mRegisteredSolenoidList then CKSolenoid.construct frc moduleType id solenoidType
      else solenoids.mRegisteredSolenoidList[key]? := by
  rw [registerSolenoid]
  by_cases held : id ∈ solenoids.mRegisteredSolenoidList
  · rw [if_pos held, if_neg fun new => new.2 held]
    rfl
  · rw [if_neg held]
    cases made : CKSolenoid.construct frc moduleType id solenoidType with
    | none =>
        by_cases same : key = id
        · rw [if_pos ⟨same, held⟩, same]
          exact Std.ExtTreeMap.getElem?_eq_none held
        · rw [if_neg fun new => same new.1]
    | some solenoid =>
        simp only [beat, Std.ExtTreeMap.getElem?_insert, Std.LawfulEqCmp.compare_eq_iff_eq]
        by_cases same : key = id
        · simp [same, held]
        · simp [same, Ne.symm same]

namespace Pneumatics

variable (pneumatics : Pneumatics)

def lastWritten (id : Nat) : Option SolenoidWrite := pneumatics.hardware[id]?

def Sound : Prop :=
  ∀ (id : Nat) (sCtrl : CKSolenoid), pneumatics.solenoids.mRegisteredSolenoidList[id]? = some sCtrl →
    sCtrl.Sound (pneumatics.lastWritten id)

def Reported (numbers : SolenoidNumbers) (id : Nat) : Prop :=
  ∀ sCtrl : CKSolenoid, pneumatics.solenoids.mRegisteredSolenoidList[id]? = some sCtrl →
    id < 65536 ∧ sCtrl.Reports numbers (pneumatics.lastWritten id)

end Pneumatics

namespace ApplySolenoidValuesTask

variable (numbers : SolenoidNumbers)

theorem apply_solenoid_spec (frc : FrcPneumatics) (pneumatics next : Pneumatics) (s : SolenoidUpdate) (sCtrl : CKSolenoid)
    (applied : applySolenoid numbers frc pneumatics s = some (next, sCtrl)) :
    ∃ before,
      (pneumatics.solenoids.mRegisteredSolenoidList[uint32 s.id]? = some sCtrl ∧ before = pneumatics.lastWritten (uint32 s.id) ∨
        CKSolenoid.construct frc s.moduleType (uint32 s.id) s.solenoidType = some sCtrl ∧ before = none) ∧
      next.solenoids.mRegisteredSolenoidList[uint32 s.id]? = some (sCtrl.set numbers s.outputValue).1 ∧
      next.lastWritten (uint32 s.id) = (sCtrl.set numbers s.outputValue).2.or before ∧
      ∀ other ≠ uint32 s.id, next.solenoids.mRegisteredSolenoidList[other]? = pneumatics.solenoids.mRegisteredSolenoidList[other]? ∧
        next.lastWritten other = pneumatics.lastWritten other := by
  rw [applySolenoid, Option.map_eq_some_iff] at applied
  obtain ⟨found, held, same⟩ := applied
  obtain ⟨rfl, rfl⟩ := Prod.mk.inj same
  rw [SolenoidManager.register_solenoid_get] at held
  refine ⟨if uint32 s.id ∈ pneumatics.solenoids.mRegisteredSolenoidList then pneumatics.lastWritten (uint32 s.id) else none,
    ?_, Std.ExtTreeMap.getElem?_insert_self, ?_, ?_⟩
  · by_cases known : uint32 s.id ∈ pneumatics.solenoids.mRegisteredSolenoidList
    · rw [if_neg fun new => new.2 known] at held
      exact Or.inl ⟨held, if_pos known⟩
    · rw [if_pos ⟨rfl, known⟩] at held
      exact Or.inr ⟨held, if_neg known⟩
  · rw [Pneumatics.lastWritten]
    cases (found.set numbers s.outputValue).2 with
    | some value => exact Std.ExtTreeMap.getElem?_insert_self
    | none =>
        dsimp only [Option.none_or]
        split
        · rfl
        · exact Std.ExtTreeMap.getElem?_erase_self
  · intro other different
    refine ⟨?_, ?_⟩
    · rw [Std.ExtTreeMap.getElem?_insert, if_neg (by simpa using different.symm), SolenoidManager.register_solenoid_get,
        if_neg fun new => different new.1]
    · have kept : ∀ hardware : DeviceMap SolenoidWrite, (hardware.erase (uint32 s.id))[other]? = hardware[other]? := by
        intro hardware
        rw [Std.ExtTreeMap.getElem?_erase, if_neg (by simpa using different.symm)]
      rw [Pneumatics.lastWritten, Pneumatics.lastWritten]
      cases (found.set numbers s.outputValue).2 with
      | some value =>
          dsimp only
          rw [Std.ExtTreeMap.getElem?_insert, if_neg (by simpa using different.symm)]
          split
          · rfl
          · exact kept _
      | none =>
          dsimp only
          split
          · rfl
          · exact kept _

theorem apply_solenoid_reported (frc : FrcPneumatics) (pneumatics next : Pneumatics) (s : SolenoidUpdate) (sCtrl : CKSolenoid)
    (applied : applySolenoid numbers frc pneumatics s = some (next, sCtrl)) (sound : pneumatics.Sound) :
    next.Sound ∧ (next.Reported numbers (uint32 s.id) ↔ uint32 s.id < 65536 ∧ sCtrl.Takes numbers s.outputValue) ∧
      ∀ other ≠ uint32 s.id, next.Reported numbers other ↔ pneumatics.Reported numbers other := by
  obtain ⟨before, origin, stored, written, others⟩ := apply_solenoid_spec numbers frc pneumatics next s sCtrl applied
  have fits : sCtrl.Sound before := by
    obtain ⟨held, same⟩ | ⟨made, same⟩ := origin
    · rw [same]
      exact sound _ _ held
    · rw [same]
      exact CKSolenoid.construct_sound sCtrl frc _ _ _ made
  obtain ⟨kept, reported⟩ := CKSolenoid.set_reported_iff numbers sCtrl s.outputValue before fits
  refine ⟨?_, ?_, ?_⟩
  · intro id other found
    by_cases same : id = uint32 s.id
    · subst same
      rw [stored, Option.some.injEq] at found
      rw [written, ← found]
      exact kept
    · rw [(others id same).1] at found
      rw [(others id same).2]
      exact sound id other found
  · simp only [Pneumatics.Reported, stored, Option.some.injEq, forall_eq', written, reported]
  · intro other different
    simp only [Pneumatics.Reported, others other different]

def setId (set : CKSolenoid × SolenoidUpdate) : Nat := uint32 set.2.id

-- Induction along the entries: the last one applied to a solenoid decides.
theorem apply_solenoids_reported (frc : Nat → FrcPneumatics) (position : Nat) (entries : List SolenoidUpdate)
    (pneumatics : Pneumatics) (sound : pneumatics.Sound) :
    (applySolenoids numbers frc position pneumatics entries).pneumatics.Sound ∧
      ∀ id, (applySolenoids numbers frc position pneumatics entries).pneumatics.Reported numbers id ↔
        match Records.latest setId (applySolenoids numbers frc position pneumatics entries).sets id with
        | some set => id < 65536 ∧ set.1.Takes numbers set.2.outputValue
        | none => pneumatics.Reported numbers id := by
  induction entries generalizing position pneumatics with
  | nil => exact ⟨sound, fun id => Iff.rfl⟩
  | cons s rest ih =>
      rw [applySolenoids]
      cases applied : applySolenoid numbers (frc position) pneumatics s with
      | none => exact ⟨sound, fun id => Iff.rfl⟩
      | some outcome =>
          obtain ⟨next, sCtrl⟩ := outcome
          obtain ⟨soundNext, own, others⟩ := apply_solenoid_reported numbers (frc position) pneumatics next s sCtrl applied sound
          obtain ⟨soundLater, later⟩ := ih (position + 1) next soundNext
          refine ⟨soundLater, fun id => ?_⟩
          dsimp only
          rw [later, Records.latest_cons]
          cases Records.latest setId (applySolenoids numbers frc (position + 1) next rest).sets id with
          | some set => rfl
          | none =>
              by_cases same : uint32 s.id = id
              · subst same
                rw [Option.none_or, if_pos (show setId (sCtrl, s) = uint32 s.id from rfl)]
                exact own
              · rw [Option.none_or, if_neg (show ¬ setId (sCtrl, s) = id from same)]
                exact others id (Ne.symm same)

variable (task : ApplySolenoidValuesTask) (pneumatics : Pneumatics) (input : SolenoidInput)

def Applies (solenoidUpdate : SolenoidControl) : Prop :=
  input.update = some (solenoidUpdate, true) ∧ task.updateCompressor input solenoidUpdate ≠ none ∧
    task.due input solenoidUpdate = true

theorem run_applied (solenoidUpdate : SolenoidControl) (applies : task.Applies input solenoidUpdate) :
    let loop := applySolenoids numbers input.frc 0 pneumatics solenoidUpdate.solenoids
    (task.run numbers pneumatics input).pneumatics = loop.pneumatics ∧
      (task.run numbers pneumatics input).outcome = .applied solenoidUpdate loop.sets loop.completed := by
  obtain ⟨update, created, due⟩ := applies
  obtain ⟨ready, updated⟩ := Option.ne_none_iff_exists'.mp created
  simp only [run, update, updated, due, if_true, and_self]

theorem run_not_applied (refused : ∀ solenoidUpdate, ¬ task.Applies input solenoidUpdate) :
    (task.run numbers pneumatics input).pneumatics = pneumatics ∧
      ∀ solenoidUpdate sets completed, (task.run numbers pneumatics input).outcome ≠ .applied solenoidUpdate sets completed := by
  rw [run]
  split
  · exact ⟨rfl, fun _ _ _ => SolenoidOutcome.noConfusion⟩
  · exact ⟨rfl, fun _ _ _ => SolenoidOutcome.noConfusion⟩
  · rename_i solenoidUpdate update
    split
    · exact ⟨rfl, fun _ _ _ => SolenoidOutcome.noConfusion⟩
    · rename_i ready updated
      split
      · rename_i due
        exact absurd ⟨update, by rw [updated]; exact Option.some_ne_none ready, due⟩ (refused solenoidUpdate)
      · exact ⟨rfl, fun _ _ _ => SolenoidOutcome.noConfusion⟩

end ApplySolenoidValuesTask

namespace Pneumatics

variable (numbers : SolenoidNumbers) (pneumatics : Pneumatics)

def empty : Pneumatics := ⟨.empty, ∅⟩

def processHeartbeat : Pneumatics := { pneumatics with solenoids := pneumatics.solenoids.processHeartbeat }

structure Faithful : Prop where
  onePerSolenoid : (SendSolenoidDataTask.entries numbers pneumatics.solenoids).length = pneumatics.solenoids.mRegisteredSolenoidList.size
  distinct : (SendSolenoidDataTask.entries numbers pneumatics.solenoids).Pairwise fun left right => left.lookup "id" ≠ right.lookup "id"
  reported : (SendSolenoidDataTask.entries numbers pneumatics.solenoids).map some =
    pneumatics.solenoids.mRegisteredSolenoidList.keys.map fun id =>
      (writtenValue (pneumatics.lastWritten id)).map fun value =>
        [("id", .int id), ("solenoid_value", .int (value.number numbers))]

theorem entry_reported_iff (id : Nat) (solenoid : CKSolenoid) (hardware : Option SolenoidWrite) :
    some (SendSolenoidDataTask.entry numbers id solenoid.mValue) =
        (writtenValue hardware).map (fun value => [("id", .int id), ("solenoid_value", .int (value.number numbers))]) ↔
      id < 65536 ∧ solenoid.Reports numbers hardware := by
  have fits : ((uint16 id : Nat) : Int) = id ↔ id < 65536 := by
    rw [uint16]
    omega
  rw [CKSolenoid.Reports]
  cases writtenValue hardware with
  | none => simp
  | some value => simp [SendSolenoidDataTask.entry, fits]

theorem faithful_iff : pneumatics.Faithful numbers ↔ ∀ id, pneumatics.Reported numbers id := by
  have reported : (SendSolenoidDataTask.entries numbers pneumatics.solenoids).map some =
      (pneumatics.solenoids.mRegisteredSolenoidList.keys.map fun id =>
        (writtenValue (pneumatics.lastWritten id)).map fun value =>
          [("id", .int id), ("solenoid_value", .int (value.number numbers))]) ↔
      ∀ id, pneumatics.Reported numbers id := by
    rw [SendSolenoidDataTask.entries, ← Std.ExtTreeMap.map_fst_toList_eq_keys, List.map_map, List.map_map, List.map_inj_left]
    simp only [Prod.forall, Std.ExtTreeMap.mem_toList_iff_getElem?_eq_some, Function.comp_apply, entry_reported_iff,
      CKSolenoid.getValue, Reported]
  refine ⟨fun faithful => reported.mp faithful.reported, fun all => ⟨?_, ?_, reported.mpr all⟩⟩
  · rw [SendSolenoidDataTask.entries, List.length_map, Std.ExtTreeMap.length_toList]
  · have ids : (SendSolenoidDataTask.entries numbers pneumatics.solenoids).map (fun fields => fields.lookup "id") =
        pneumatics.solenoids.mRegisteredSolenoidList.keys.map fun id => some (.int id) := by
      rw [SendSolenoidDataTask.entries, ← Std.ExtTreeMap.map_fst_toList_eq_keys, List.map_map, List.map_map, List.map_inj_left]
      rintro ⟨id, sCtrl⟩ held
      have small := (all id sCtrl (Std.ExtTreeMap.mem_toList_iff_getElem?_eq_some.mp held)).1
      have fits : uint16 id = id := by
        rw [uint16]
        omega
      simp [SendSolenoidDataTask.entry, fits]
    have apart : ((SendSolenoidDataTask.entries numbers pneumatics.solenoids).map fun fields => fields.lookup "id").Nodup := by
      rw [ids]
      exact Std.ExtTreeMap.nodup_keys.map fun left right same => by simpa using same
    exact List.pairwise_map.mp apart

theorem process_heartbeat_get (id : Nat) (sCtrl : CKSolenoid)
    (found : pneumatics.processHeartbeat.solenoids.mRegisteredSolenoidList[id]? = some sCtrl) :
    pneumatics.solenoids.mRegisteredSolenoidList[id]? = some sCtrl := by
  refine Expiry.loop_invariant SolenoidManager.tick SolenoidManager.mRegisteredSolenoidHeartbeatList
    (fun solenoids => solenoids.mRegisteredSolenoidList[id]? = some sCtrl →
      pneumatics.solenoids.mRegisteredSolenoidList[id]? = some sCtrl) ?_ pneumatics.solenoids (fun held => held) found
  intro solenoids key kept held
  rw [SolenoidManager.tick] at held
  split at held
  · simp only [SolenoidManager.setHeartbeats, SolenoidManager.deleteSolenoid, Std.ExtTreeMap.getElem?_erase] at held
    split at held
    · cases held
    · exact kept held
  · exact kept held

end Pneumatics

-- The messages are applied by one task, on the one registry.
structure SolenoidWorld where
  task : ApplySolenoidValuesTask
  pneumatics : Pneumatics

inductive SolenoidOp where
  | run (input : SolenoidInput)
  | processHeartbeat

namespace SolenoidWorld

def start (mCompressor : Bool) (timeNow : UInt64) : SolenoidWorld := ⟨.construct mCompressor timeNow, .empty⟩

variable (numbers : SolenoidNumbers) (world : SolenoidWorld)

def step : SolenoidOp → SolenoidWorld
  | .run input =>
      let result := world.task.run numbers world.pneumatics input
      ⟨result.task, result.pneumatics⟩
  | .processHeartbeat => { world with pneumatics := world.pneumatics.processHeartbeat }

def StatusFaithful (op : SolenoidOp) : Prop := (world.step numbers op).pneumatics.Faithful numbers

-- The entries applied are of module 0, and the last one for a solenoid has a value for it.
def AppliesReportable (op : SolenoidOp) : Prop :=
  ∀ input solenoidUpdate, op = .run input → world.task.Applies input solenoidUpdate →
    ∀ id set, Records.latest ApplySolenoidValuesTask.setId
        (ApplySolenoidValuesTask.applySolenoids numbers input.frc 0 world.pneumatics solenoidUpdate.solenoids).sets id = some set →
      id < 65536 ∧ set.1.Takes numbers set.2.outputValue

structure Invariant : Prop where
  sound : world.pneumatics.Sound
  reported : ∀ id, world.pneumatics.Reported numbers id

theorem start_invariant (mCompressor : Bool) (timeNow : UInt64) : (start mCompressor timeNow).Invariant numbers := by
  refine ⟨?_, ?_⟩
  · intro id sCtrl found
    simp [start, Pneumatics.empty, SolenoidManager.empty] at found
  · intro id sCtrl found
    simp [start, Pneumatics.empty, SolenoidManager.empty] at found

theorem step_keeps (holds : Pneumatics → Prop)
    (applied : ∀ frc entries, holds world.pneumatics →
      holds (ApplySolenoidValuesTask.applySolenoids numbers frc 0 world.pneumatics entries).pneumatics)
    (ticked : holds world.pneumatics → holds world.pneumatics.processHeartbeat) (op : SolenoidOp)
    (before : holds world.pneumatics) : holds (world.step numbers op).pneumatics := by
  cases op with
  | processHeartbeat => exact ticked before
  | run input =>
      rw [step]
      by_cases applies : ∃ solenoidUpdate, world.task.Applies input solenoidUpdate
      · obtain ⟨solenoidUpdate, applies⟩ := applies
        rw [(ApplySolenoidValuesTask.run_applied _ _ _ _ solenoidUpdate applies).1]
        exact applied input.frc solenoidUpdate.solenoids before
      · rw [(ApplySolenoidValuesTask.run_not_applied _ _ _ _ (not_exists.mp applies)).1]
        exact before

theorem sound_step (sound : world.pneumatics.Sound) (op : SolenoidOp) : (world.step numbers op).pneumatics.Sound :=
  step_keeps numbers world Pneumatics.Sound
    (fun frc entries sound => (ApplySolenoidValuesTask.apply_solenoids_reported numbers frc 0 entries world.pneumatics sound).1)
    (fun sound id sCtrl found => sound id sCtrl (Pneumatics.process_heartbeat_get _ id sCtrl found)) op sound

theorem status_faithful_iff (op : SolenoidOp) (kept : world.Invariant numbers) :
    world.StatusFaithful numbers op ↔ world.AppliesReportable numbers op := by
  rw [StatusFaithful, Pneumatics.faithful_iff]
  cases op with
  | processHeartbeat =>
      refine iff_of_true ?_ fun input solenoidUpdate same => nomatch same
      exact fun id sCtrl found => kept.reported id sCtrl (Pneumatics.process_heartbeat_get _ id sCtrl found)
  | run input =>
      by_cases applied : ∃ solenoidUpdate, world.task.Applies input solenoidUpdate
      · obtain ⟨solenoidUpdate, applies⟩ := applied
        have later := (ApplySolenoidValuesTask.apply_solenoids_reported numbers input.frc 0 solenoidUpdate.solenoids
          world.pneumatics kept.sound).2
        rw [step, (ApplySolenoidValuesTask.run_applied _ _ _ _ solenoidUpdate applies).1]
        simp only [later]
        refine ⟨?_, ?_⟩
        · intro all other update same alike id set last
          obtain rfl := SolenoidOp.run.inj same
          obtain ⟨rfl, _⟩ := Prod.mk.inj (Option.some.inj (applies.1.symm.trans alike.1))
          have here := all id
          rw [last] at here
          exact here
        · intro all id
          split
          · rename_i set last
            exact all input solenoidUpdate rfl applies id set last
          · exact kept.reported id
      · rw [step, (ApplySolenoidValuesTask.run_not_applied _ _ _ _ (not_exists.mp applied)).1]
        refine iff_of_true kept.reported ?_
        intro other solenoidUpdate same applies
        obtain rfl := SolenoidOp.run.inj same
        exact absurd ⟨solenoidUpdate, applies⟩ applied

theorem solenoid_status_faithful_iff (mCompressor : Bool) (timeNow : UInt64) (ops : List SolenoidOp) :
    Runs.EachStep (step numbers) (StatusFaithful numbers) (start mCompressor timeNow) ops ↔
      Runs.EachStep (step numbers) (AppliesReportable numbers) (start mCompressor timeNow) ops := by
  refine Runs.each_step_iff_of_invariant (step numbers) (Invariant numbers) _ _
    (fun world op kept => status_faithful_iff numbers world op kept) ?_ ops _ (start_invariant numbers mCompressor timeNow)
  intro world op kept reportable
  refine ⟨sound_step numbers world kept.sound op, ?_⟩
  exact (Pneumatics.faithful_iff numbers _).mp ((status_faithful_iff numbers world op kept).mpr reportable)

end SolenoidWorld

def secondModule : SolenoidUpdate := ⟨⟨65536, .on⟩, .ctrePCM, .single⟩

def frcWorking : FrcPneumatics := ⟨fun _ _ _ => true, fun _ _ _ _ => true⟩

def solenoidInput (solenoidUpdate : SolenoidControl) (parsed : Bool) (timeNow : UInt64) : SolenoidInput :=
  ⟨some (solenoidUpdate, parsed), true, true, fun _ => frcWorking, timeNow, timeNow⟩

-- Numbers for which the cast to the value of frc keeps the names.
def castableNumbers : SolenoidNumbers := ⟨0, 3, 1, 2⟩

theorem second_module_reported_under_other_id :
    ¬ ∀ (numbers : SolenoidNumbers) (mCompressor : Bool) (timeNow : UInt64) (ops : List SolenoidOp),
      Runs.EachStep (SolenoidWorld.step numbers) (SolenoidWorld.StatusFaithful numbers) (SolenoidWorld.start mCompressor timeNow)
        ops := by
  intro always
  have faithful := always castableNumbers false 0 [.run (solenoidInput ⟨[secondModule], true⟩ true 20000)]
  have reported := faithful.1.reported
  revert reported
  decide +kernel

end RioPassthru
