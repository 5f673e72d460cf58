import RioPassthru.Lib.BitFields

set_option autoImplicit false

namespace RioPassthru

open BitFields

-- The numbers are those of the FRC layout, for which the shifts of an int lose nothing.
structure CKCANDevice where
  mDeviceID : Nat
  mDeviceType : Nat
  mManufacturerType : Nat
deriving DecidableEq, Repr

structure FrcCAN where
  deviceId : Nat
  deviceManufacturer : Nat
  deviceType : Nat
deriving DecidableEq, Repr

namespace CKCANDevice

variable (device : CKCANDevice)

def getCANDev : FrcCAN := ⟨device.mDeviceID &&& 0x3F, device.mManufacturerType, device.mDeviceType⟩

def getDeviceIDBase : Nat :=
  ((device.mDeviceType <<< 24) &&& 0x1F000000) ||| ((device.mManufacturerType <<< 16) &&& 0x00FF0000) |||
    (device.mDeviceID &&& 0x0000003F)

def getAPIID (apiClass apiIndex : Nat) : Nat := ((apiClass <<< 4) &&& 0x3F0) ||| (apiIndex &&& 0x00F)

def getDeviceID (apiID : Nat) : Nat := device.getDeviceIDBase ||| ((apiID <<< 6) &&& 0x000003C0)

theorem get_device_id_base_eq :
    device.getDeviceIDBase =
      place device.mDeviceType 5 24 ||| place device.mManufacturerType 8 16 ||| place device.mDeviceID 6 0 :=
  rfl

theorem get_api_id_eq (apiClass apiIndex : Nat) : getAPIID apiClass apiIndex = place apiClass 6 4 ||| place apiIndex 4 0 := rfl

-- Four bits of the API id are placed, of the ten that getAPIID fills.
theorem get_device_id_eq (apiID : Nat) : device.getDeviceID apiID = device.getDeviceIDBase ||| place apiID 4 6 := rfl

theorem get_api_id_index (apiClass apiIndex : Nat) : extract (getAPIID apiClass apiIndex) 4 0 = extract apiIndex 4 0 := by
  rw [get_api_id_eq, extract_or, extract_place_apart apiClass 6 4 4 0 (by decide), extract_place, Nat.zero_or]

theorem get_api_id_class (apiClass apiIndex : Nat) : extract (getAPIID apiClass apiIndex) 6 4 = extract apiClass 6 0 := by
  rw [get_api_id_eq, extract_or, extract_place_apart apiIndex 4 0 6 4 (by decide), extract_place, Nat.or_zero]

end CKCANDevice

structure CANFields where
  deviceType : Fin 32
  manufacturer : Fin 256
  apiClass : Fin 64
  apiIndex : Fin 16
  deviceNumber : Fin 64
deriving DecidableEq, Repr

namespace CANFields

variable (fields : CANFields)

def identifier : Nat :=
  CKCANDevice.getDeviceID ⟨fields.deviceNumber, fields.deviceType, fields.manufacturer⟩
    (CKCANDevice.getAPIID fields.apiClass fields.apiIndex)

def decoded (identifier : Nat) : CANFields :=
  ⟨Fin.ofNat 32 (extract identifier 5 24), Fin.ofNat 256 (extract identifier 8 16), Fin.ofNat 64 (extract identifier 6 10),
    Fin.ofNat 16 (extract identifier 4 6), Fin.ofNat 64 (extract identifier 6 0)⟩

theorem identifier_eq :
    fields.identifier = place fields.deviceType 5 24 ||| place fields.manufacturer 8 16 ||| place fields.deviceNumber 6 0 |||
      place fields.apiIndex 4 6 := by
  rw [identifier, CKCANDevice.get_device_id_eq, CKCANDevice.get_device_id_base_eq, ← place_extract (CKCANDevice.getAPIID _ _),
    CKCANDevice.get_api_id_index, place_extract]

theorem decoded_identifier : decoded fields.identifier = { fields with apiClass := 0 } := by
  have typeBits := extract_of_lt _ 5 fields.deviceType.isLt
  have manufacturerBits := extract_of_lt _ 8 fields.manufacturer.isLt
  have indexBits := extract_of_lt _ 4 fields.apiIndex.isLt
  have numberBits := extract_of_lt _ 6 fields.deviceNumber.isLt
  rw [decoded, identifier_eq]
  simp (disch := decide) only [extract_or, extract_place, extract_place_apart, Nat.zero_or, Nat.or_zero, typeBits,
    manufacturerBits, indexBits, numberBits, Fin.ofNat_val_eq_self]
  rfl

theorem identifier_eq_iff (other : CANFields) :
    fields.identifier = other.identifier ↔ { fields with apiClass := 0 } = { other with apiClass := 0 } := by
  refine ⟨fun same => ?_, fun same => ?_⟩
  · rw [← decoded_identifier, same, decoded_identifier]
  · injection same with typeSame manufacturerSame _ indexSame numberSame
    rw [identifier_eq, identifier_eq, typeSame, manufacturerSame, indexSame, numberSame]

-- The API class is masked away: it comes back where it is 0, and identifiers are told apart
-- by the other fields alone.
theorem decodable_iff (other : CANFields) :
    (decoded fields.identifier = fields ↔ fields.apiClass = 0) ∧
      ((fields ≠ other → fields.identifier ≠ other.identifier) ↔
        ¬(fields.apiClass ≠ other.apiClass ∧ { fields with apiClass := other.apiClass } = other)) := by
  refine ⟨?_, ?_⟩
  · rw [decoded_identifier]
    refine ⟨fun same => (congrArg apiClass same).symm, fun zero => ?_⟩
    rw [← zero]
  · rw [ne_eq, ne_eq, identifier_eq_iff]
    obtain ⟨deviceType, manufacturer, apiClass, apiIndex, deviceNumber⟩ := fields
    obtain ⟨deviceType', manufacturer', apiClass', apiIndex', deviceNumber'⟩ := other
    simp only [mk.injEq]
    grind

theorem api_class_lost : ¬ ∀ fields : CANFields, decoded fields.identifier = fields ∧
    ∀ other : CANFields, fields ≠ other → fields.identifier ≠ other.identifier := by
  intro always
  exact (always ⟨10, 8, 6, 1, 1⟩).2 ⟨10, 8, 0, 1, 1⟩ (by decide) (by decide)

end CANFields

end RioPassthru
