import RioPassthru.Devices.SolenoidManager

set_option autoImplicit false

namespace RioPassthru

inductive FrcObject where
  | solenoid (module : Nat) (moduleType : SolenoidModuleType) (channel : Nat)
  | doubleSolenoid (module : Nat) (moduleType : SolenoidModuleType) (forwardChannel reverseChannel : Nat)
deriving DecidableEq, Repr

namespace FrcObject

def module : FrcObject → Nat
  | solenoid module _ _ => module
  | doubleSolenoid module _ _ _ => module

def channels : FrcObject → List Nat
  | solenoid _ _ channel => [channel]
  | doubleSolenoid _ _ forwardChannel reverseChannel => [forwardChannel, reverseChannel]

def returns (frc : FrcPneumatics) : FrcObject → Bool
  | solenoid module moduleType channel => frc.solenoid module moduleType channel
  | doubleSolenoid module moduleType forwardChannel reverseChannel =>
      frc.doubleSolenoid module moduleType forwardChannel reverseChannel

end FrcObject

namespace CKSolenoid

variable (moduleType : SolenoidModuleType) (solenoidId : Nat) (solenoidType : SolenoidType)

def unbuilt : CKSolenoid := ⟨moduleType, solenoidId, solenoidType, .off, false, false⟩

def frcObject : Option FrcObject :=
  let solenoid := unbuilt moduleType solenoidId solenoidType
  if solenoid.idsInvalid then none
  else
    match solenoidType with
    | .single => some (.solenoid solenoid.getModuleId moduleType solenoid.getSolenoidId)
    | .double => some (.doubleSolenoid solenoid.getModuleId moduleType solenoid.getSolenoidId (solenoid.getSolenoidId + 1))
    | .other _ => none

def withObject (solenoid : CKSolenoid) : FrcObject → CKSolenoid
  | .solenoid _ _ _ => { solenoid with mSingleSolenoid := true }
  | .doubleSolenoid _ _ _ _ => { solenoid with mDoubleSolenoid := true }

def built : CKSolenoid :=
  match frcObject moduleType solenoidId solenoidType with
  | none => unbuilt moduleType solenoidId solenoidType
  | some object => (unbuilt moduleType solenoidId solenoidType).withObject object

-- The constructor makes this one object or none, and throws where that one's constructor does.
theorem construct_eq (frc : FrcPneumatics) :
    construct frc moduleType solenoidId solenoidType =
      if (frcObject moduleType solenoidId solenoidType).all (FrcObject.returns frc) then
        some (built moduleType solenoidId solenoidType)
      else none := by
  rw [construct.eq_def, built, frcObject.eq_def, unbuilt]
  dsimp only
  split
  · rfl
  · cases solenoidType <;> rfl

end CKSolenoid

def channelCount : SolenoidModuleType → Nat
  | .ctrePCM => 8
  | .revPH => 16
  | .other _ => 0

def moduleCount : SolenoidModuleType → Nat
  | .ctrePCM => 64
  | .revPH => 63
  | .other _ => 0

namespace CKSolenoid

variable (moduleType : SolenoidModuleType) (solenoidId : Nat) (solenoidType : SolenoidType)

def LegalChannels : Prop :=
  ∀ object, frcObject moduleType solenoidId solenoidType = some object →
    object.module < moduleCount moduleType ∧ ∀ channel ∈ object.channels, channel < channelCount moduleType

theorem ids_invalid_iff (solenoid : CKSolenoid) (known : solenoid.mModuleType = .ctrePCM ∨ solenoid.mModuleType = .revPH) :
    solenoid.idsInvalid = false ↔
      solenoid.getModuleId < moduleCount solenoid.mModuleType ∧ solenoid.getSolenoidId < channelCount solenoid.mModuleType := by
  obtain pcm | ph := known
  · simp [idsInvalid, pcm, moduleCount, channelCount]
  · simp [idsInvalid, ph, moduleCount, channelCount]

-- Only the reverse channel of a double solenoid is not checked.
theorem legal_channels_iff (known : moduleType = .ctrePCM ∨ moduleType = .revPH) :
    LegalChannels moduleType solenoidId solenoidType ↔
      ¬(solenoidType = .double ∧ (unbuilt moduleType solenoidId solenoidType).getModuleId < moduleCount moduleType ∧
        solenoidId % 65536 + 1 = channelCount moduleType) := by
  generalize made : unbuilt moduleType solenoidId solenoidType = solenoid
  have own : solenoid.mModuleType = moduleType ∧ solenoid.getSolenoidId = solenoidId % 65536 := by
    rw [← made]
    exact ⟨rfl, rfl⟩
  have checked := ids_invalid_iff solenoid (own.1 ▸ known)
  rw [LegalChannels, frcObject.eq_def, made]
  rw [own.1, own.2] at checked
  dsimp only
  rw [own.2]
  cases invalid : solenoid.idsInvalid with
  | true =>
      rw [if_pos rfl]
      apply iff_of_true nofun
      intro last
      have valid := checked.mpr ⟨last.2.1, by omega⟩
      rw [invalid] at valid
      cases valid
  | false =>
      obtain ⟨inModules, inChannels⟩ := checked.mp invalid
      rw [if_neg Bool.false_ne_true]
      cases solenoidType with
      | other number => exact iff_of_true nofun fun last => nomatch last.1
      | single =>
          refine iff_of_true ?_ fun last => nomatch last.1
          intro object asked
          obtain rfl := Option.some.inj asked
          exact ⟨inModules, List.forall_mem_singleton.mpr inChannels⟩
      | double =>
          have channels : ∀ channel : Nat, (∀ x ∈ [solenoidId % 65536, channel], x < channelCount moduleType) ↔
              channel < channelCount moduleType := by
            simp [inChannels]
          simp only [Option.some.injEq, forall_eq', FrcObject.module, FrcObject.channels, channels, inModules, true_and]
          omega

theorem legal_channels_of_single :
    LegalChannels .revPH 15 .single ↔
      ¬(SolenoidType.single = .double ∧ (unbuilt .revPH 15 .single).getModuleId < moduleCount .revPH ∧
        15 % 65536 + 1 = channelCount .revPH) :=
  legal_channels_iff .revPH 15 .single (Or.inr rfl)

theorem double_solenoid_beyond_last_channel :
    ¬ ∀ (moduleType : SolenoidModuleType) (solenoidId : Nat) (solenoidType : SolenoidType),
      moduleType = .ctrePCM ∨ moduleType = .revPH → solenoidId < 2 ^ 32 → LegalChannels moduleType solenoidId solenoidType := by
  intro always
  have legal := (always .ctrePCM 7 .double (Or.inl rfl) (by decide) _ rfl).2 8 (by decide)
  exact absurd legal (by decide)

end CKSolenoid

end RioPassthru
