import Mathlib.Algebra.Group.ModEq
import Mathlib.Algebra.Order.Field.Basic
import Mathlib.Algebra.Order.Floor.Ring
import Mathlib.Tactic.Linarith
import Mathlib.Tactic.NormNum.OfScientific
import RioPassthru.Lib.Loops

set_option autoImplicit false

namespace RioPassthru

namespace CKMath

variable {T : Type} [LinearOrder T]

def max (a b : T) : T := if a > b then a else b

def min (a b : T) : T := if a < b then a else b

def limit (v minVal maxVal : T) : T := min maxVal (max minVal v)

def limitMagnitude [Neg T] (v maxMagnitude : T) : T := limit v (-maxMagnitude) maxMagnitude

theorem max_eq_max (a b : T) : max a b = Max.max a b := by
  obtain lower | higher := le_or_gt a b
  · rw [max, if_neg lower.not_gt, max_eq_right lower]
  · rw [max, if_pos higher, max_eq_left higher.le]

theorem min_eq_min (a b : T) : min a b = Min.min a b := by
  obtain lower | higher := lt_or_ge a b
  · rw [min, if_pos lower, min_eq_left lower.le]
  · rw [min, if_neg higher.not_gt, min_eq_right higher]

theorem limit_eq (v minVal maxVal : T) : limit v minVal maxVal = Min.min maxVal (Max.max minVal v) := by
  rw [limit, min_eq_min, max_eq_max]

section Yaw

open Loops

variable {K : Type} [Field K] [LinearOrder K]

def subtractTurn (input_angle_deg : K) : K := input_angle_deg - 360.0

def addTurn (input_angle_deg : K) : K := input_angle_deg + 360.0

variable [IsStrictOrderedRing K] [FloorRing K]

theorem turns_fall (excess : K) (beyond : 0 < excess) : ⌈(excess - 360) / 360⌉.toNat < ⌈excess / 360⌉.toNat := by
  have whole : (excess - 360) / 360 = excess / 360 - 1 := by
    rw [sub_div, div_self (by norm_num)]
  have positive : 0 < ⌈excess / 360⌉ := Int.ceil_pos.mpr (div_pos beyond (by norm_num))
  rw [whole, Int.ceil_sub_one]
  omega

theorem subtract_turn_falls (angle : K) (above : angle > 180) :
    ⌈(subtractTurn angle - 180) / 360⌉.toNat < ⌈(angle - 180) / 360⌉.toNat := by
  have next : subtractTurn angle - 180 = angle - 180 - 360 := by
    rw [subtractTurn, sub_right_comm]
    norm_num
  rw [next]
  exact turns_fall (angle - 180) (sub_pos.mpr above)

theorem add_turn_falls (angle : K) (below : angle < -180) :
    ⌈(-180 - addTurn angle) / 360⌉.toNat < ⌈(-180 - angle) / 360⌉.toNat := by
  have next : -180 - addTurn angle = -180 - angle - 360 := by
    rw [addTurn, sub_add_eq_sub_sub]
    norm_num
  rw [next]
  exact turns_fall (-180 - angle) (sub_pos.mpr below)

def loweredYaw (input_angle_deg : K) : K :=
  whileLoop (· > 180) subtractTurn (fun angle => ⌈(angle - 180) / 360⌉.toNat) subtract_turn_falls input_angle_deg

def normalizeYaw (input_angle_deg : K) : K :=
  whileLoop (· < -180) addTurn (fun angle => ⌈(-180 - angle) / 360⌉.toNat) add_turn_falls (loweredYaw input_angle_deg)

theorem lowered_yaw_ends (angle : K) : Ends (· > 180) subtractTurn angle (loweredYaw angle) := while_loop_ends _ _ _ _ _

theorem normalize_yaw_ends (angle : K) : Ends (· < -180) addTurn (loweredYaw angle) (normalizeYaw angle) :=
  while_loop_ends _ _ _ _ _

theorem normalize_yaw_mem (angle : K) : normalizeYaw angle ∈ Set.Icc (-180) 180 := by
  have lowered := not_lt.mp (lowered_yaw_ends angle).exit
  refine ⟨not_lt.mp (normalize_yaw_ends angle).exit, ?_⟩
  have kept : ∀ state : K, state < -180 → state ≤ 180 → addTurn state ≤ 180 := by
    intro state below _
    rw [addTurn]
    norm_num
    linarith
  exact (normalize_yaw_ends angle).invariant (· ≤ 180) kept lowered

omit [FloorRing K] in
theorem subtract_turn_mod_eq (angle : K) : subtractTurn angle ≡ angle [PMOD 360] := by
  have turn : angle - subtractTurn angle = (1 : ℤ) • 360 := by
    rw [subtractTurn, sub_sub_cancel, one_zsmul]
    norm_num
  apply AddCommGroup.modEq_iff_zsmul'.mpr
  exact ⟨1, turn⟩

omit [FloorRing K] in
theorem add_turn_mod_eq (angle : K) : addTurn angle ≡ angle [PMOD 360] := by
  have turn : angle - addTurn angle = (-1 : ℤ) • 360 := by
    rw [addTurn, sub_add_cancel_left, neg_one_zsmul]
    norm_num
  apply AddCommGroup.modEq_iff_zsmul'.mpr
  exact ⟨-1, turn⟩

theorem normalize_yaw_mod_eq (angle : K) : normalizeYaw angle ≡ angle [PMOD 360] := by
  have lowered : loweredYaw angle ≡ angle [PMOD 360] :=
    (lowered_yaw_ends angle).invariant (· ≡ angle [PMOD 360]) (fun state _ same => (subtract_turn_mod_eq state).trans same)
      AddCommGroup.modEq_rfl
  exact (normalize_yaw_ends angle).invariant (· ≡ angle [PMOD 360]) (fun state _ same => (add_turn_mod_eq state).trans same)
    lowered

end Yaw

end CKMath

end RioPassthru
