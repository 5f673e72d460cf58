import Mathlib.Algebra.Order.Group.MinMax
import Mathlib.Algebra.Order.Group.Abs

set_option autoImplicit false

namespace DeadZone

variable {G : Type} [AddCommGroup G] [LinearOrder G] [IsOrderedAddMonoid G]

-- Nothing comes through up to width; beyond it, on either side, what exceeds it.
def deadZone (width input : G) : G := max (input - width) 0 - max (-input - width) 0

omit [IsOrderedAddMonoid G] in
theorem dead_zone_neg (width input : G) : deadZone width (-input) = -deadZone width input := by
  rw [deadZone, neg_neg, deadZone, neg_sub]

theorem dead_zone_monotone (width : G) : Monotone (deadZone width) := by
  intro less more order
  apply sub_le_sub
  · exact max_le_max_right 0 (sub_le_sub_right order width)
  · exact max_le_max_right 0 (sub_le_sub_right (neg_le_neg order) width)

theorem dead_zone_of_abs_le (width input : G) (inside : |input| ≤ width) : deadZone width input = 0 := by
  have upper : input - width ≤ 0 := sub_nonpos.mpr ((le_abs_self input).trans inside)
  have lower : -input - width ≤ 0 := sub_nonpos.mpr ((neg_le_abs input).trans inside)
  rw [deadZone, max_eq_right upper, max_eq_right lower, sub_self]

theorem dead_zone_of_le (width input : G) (nonneg : 0 ≤ width) (beyond : width ≤ input) :
    deadZone width input = input - width := by
  have opposite : -input ≤ width := (neg_nonpos.mpr (nonneg.trans beyond)).trans nonneg
  rw [deadZone, max_eq_left (sub_nonneg.mpr beyond), max_eq_right (sub_nonpos.mpr opposite), sub_zero]

theorem dead_zone_of_le_neg (width input : G) (nonneg : 0 ≤ width) (beyond : width ≤ -input) :
    deadZone width input = input + width := by
  rw [← neg_neg input, dead_zone_neg, dead_zone_of_le width (-input) nonneg beyond, neg_sub, neg_neg, sub_neg_eq_add,
    add_comm]

theorem dead_zone_eq_zero_iff (width input : G) (nonneg : 0 ≤ width) : deadZone width input = 0 ↔ |input| ≤ width := by
  refine ⟨?_, dead_zone_of_abs_le width input⟩
  intro silent
  apply abs_le'.mpr
  refine ⟨?_, ?_⟩
  · obtain inside | beyond := le_total input width
    · exact inside
    · rw [dead_zone_of_le width input nonneg beyond] at silent
      exact (sub_eq_zero.mp silent).le
  · obtain inside | beyond := le_total (-input) width
    · exact inside
    · rw [dead_zone_of_le_neg width input nonneg beyond] at silent
      exact (eq_neg_of_add_eq_zero_right silent).ge

theorem dead_zone_reaches (width output : G) (nonneg : 0 ≤ width) :
    ∃ input, |input| ≤ |output| + width ∧ deadZone width input = output := by
  obtain forward | backward := le_total 0 output
  · refine ⟨output + width, ?_, ?_⟩
    · rw [abs_of_nonneg forward, abs_of_nonneg (add_nonneg forward nonneg)]
    · rw [dead_zone_of_le width _ nonneg (le_add_of_nonneg_left forward), add_sub_cancel_right]
  · refine ⟨output - width, ?_, ?_⟩
    · exact (abs_sub output width).trans_eq (congrArg (|output| + ·) (abs_of_nonneg nonneg))
    · have beyond : width ≤ -(output - width) := by
        rw [neg_sub]
        exact le_sub_self_iff width |>.mpr backward
      rw [dead_zone_of_le_neg width _ nonneg beyond, sub_add_cancel]

end DeadZone
