import Mathlib.Data.Rat.Floor
import RioPassthru.Lib.Runs
import RioPassthru.Utils.CKMath

set_option autoImplicit false

namespace RioPassthru

open CKMath Loops

variable {K : Type} [Field K]

structure YawPitchRoll (K : Type) where
  yaw : K
  pitch : K
  roll : K
deriving DecidableEq, Repr

def PI : K := 3.14159265358979323846

def deg2rad (deg : K) : K := deg * PI / 180.0

structure PigeonYaw (K : Type) where
  m_yaw_angle_offset : K
deriving DecidableEq, Repr

-- reading is what GetYawPitchRoll answers, none when that is not ErrorCode::OK.
inductive YawCall (K : Type) where
  | setYaw (reading : Option (YawPitchRoll K)) (yaw : K)
  | getYPR (reading : Option (YawPitchRoll K)) (ypr : YawPitchRoll K)

-- The yaw set by the last call that could read the sensor, and what it read; nothing is the
-- same as an offset of 0.
def setBy (last : K × K) : YawCall K → K × K
  | .setYaw (some yprDeg) yaw => (yaw, yprDeg.yaw)
  | _ => last

def lastSetYaw (calls : List (YawCall K)) : K × K := calls.foldl setBy (0, 0)

namespace PigeonYaw

def initial : PigeonYaw K := ⟨0⟩

variable [LinearOrder K] [IsStrictOrderedRing K] [FloorRing K] (pigeon : PigeonYaw K)

def setYaw (reading : Option (YawPitchRoll K)) (yaw : K) : PigeonYaw K × Bool :=
  match reading with
  | none => (pigeon, false)
  | some yprDeg =>
      let actual := normalizeYaw yprDeg.yaw
      ({ pigeon with m_yaw_angle_offset := normalizeYaw (normalizeYaw yaw - actual) }, true)

def getYPR (reading : Option (YawPitchRoll K)) (ypr : YawPitchRoll K) : YawPitchRoll K × Bool :=
  match reading with
  | none => (ypr, false)
  | some yprDeg =>
      let yawDeg := normalizeYaw (normalizeYaw yprDeg.yaw + pigeon.m_yaw_angle_offset)
      (⟨deg2rad yawDeg, deg2rad yprDeg.pitch, deg2rad yprDeg.roll⟩, true)

def called (call : YawCall K) : PigeonYaw K :=
  match call with
  | .setYaw reading yaw => (pigeon.setYaw reading yaw).1
  | .getYPR _ _ => pigeon

theorem called_offset (last : K × K) (call : YawCall K) (offset : pigeon.m_yaw_angle_offset ≡ last.1 - last.2 [PMOD 360]) :
    (pigeon.called call).m_yaw_angle_offset ≡ (setBy last call).1 - (setBy last call).2 [PMOD 360] := by
  cases call with
  | getYPR reading ypr => exact offset
  | setYaw reading yaw =>
      cases reading with
      | none => exact offset
      | some yprDeg =>
          have inside := (normalize_yaw_mod_eq yaw).sub (normalize_yaw_mod_eq yprDeg.yaw)
          exact (normalize_yaw_mod_eq _).trans inside

theorem run_offset (calls : List (YawCall K)) (last : K × K) (offset : pigeon.m_yaw_angle_offset ≡ last.1 - last.2 [PMOD 360]) :
    (Runs.runSteps called pigeon calls).m_yaw_angle_offset ≡
      (calls.foldl setBy last).1 - (calls.foldl setBy last).2 [PMOD 360] := by
  induction calls generalizing pigeon last with
  | nil => exact offset
  | cons call rest ih => exact ih (pigeon.called call) (setBy last call) (pigeon.called_offset last call offset)

theorem yaw_is_offset (calls : List (YawCall K)) :
    let pigeon := Runs.runSteps called initial calls
    (∀ (ypr raw : YawPitchRoll K), ∃ yaw,
      pigeon.getYPR (some raw) ypr = (⟨deg2rad yaw, deg2rad raw.pitch, deg2rad raw.roll⟩, true) ∧
        yaw ∈ Set.Icc (-180) 180 ∧ yaw ≡ (lastSetYaw calls).1 + (raw.yaw - (lastSetYaw calls).2) [PMOD 360]) ∧
      (∀ yaw, pigeon.setYaw none yaw = (pigeon, false)) ∧
      (∀ ypr, pigeon.getYPR none ypr = (ypr, false)) ∧
      ∀ angle : K, ∃ lowered,
        Ends (· > 180) subtractTurn angle lowered ∧ Ends (· < -180) addTurn lowered (normalizeYaw angle) := by
  intro pigeon
  refine ⟨?_, fun _ => rfl, fun _ => rfl, fun angle => ⟨_, lowered_yaw_ends angle, normalize_yaw_ends angle⟩⟩
  intro ypr raw
  have offset := run_offset initial calls (0, 0) (by rw [initial, sub_zero])
  have shifted := (normalize_yaw_mod_eq raw.yaw).add offset
  refine ⟨_, rfl, normalize_yaw_mem _, (normalize_yaw_mod_eq _).trans ?_⟩
  rwa [add_sub_left_comm] at shifted

theorem yaw_is_offset_after_turn :
    let pigeon := Runs.runSteps called (initial : PigeonYaw ℚ) [.setYaw (some ⟨350, 0, 0⟩) 90, .setYaw none 10]
    ∃ yaw, pigeon.getYPR (some ⟨710, 1, 2⟩) ⟨0, 0, 0⟩ = (⟨deg2rad yaw, deg2rad 1, deg2rad 2⟩, true) ∧
      yaw ∈ Set.Icc (-180) 180 ∧ yaw ≡ 90 + (710 - 350) [PMOD 360] :=
  (yaw_is_offset [.setYaw (some ⟨350, 0, 0⟩) 90, .setYaw none 10]).1 ⟨0, 0, 0⟩ ⟨710, 1, 2⟩

end PigeonYaw

end RioPassthru
