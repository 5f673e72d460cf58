import Mathlib.Algebra.Order.Floor.Ring
import Mathlib.Algebra.Order.Field.Rat
import Mathlib.Data.Int.Log
import Mathlib.Data.Rat.Floor

set_option autoImplicit false

-- Numbers as binary32 holds them, for magnitudes from its least normal to its greatest one.
namespace Binary32

def nearestEven (number : ℚ) : ℤ :=
  if Int.fract number < 1 / 2 then ⌊number⌋
  else if 1 / 2 < Int.fract number then ⌊number⌋ + 1
  else if Even ⌊number⌋ then ⌊number⌋
  else ⌊number⌋ + 1

def lastPlace (number : ℚ) : ℚ := 2 ^ (Int.log 2 |number| - 23)

def rounded (number : ℚ) : ℚ :=
  if number = 0 then 0 else nearestEven (number / lastPlace number) * lastPlace number

theorem nearest_even_nonneg (number : ℚ) (nonneg : 0 ≤ number) : 0 ≤ nearestEven number := by
  have whole : 0 ≤ ⌊number⌋ := Int.floor_nonneg.mpr nonneg
  rw [nearestEven]
  split_ifs
  · exact whole
  · exact Int.add_nonneg whole Int.one_nonneg
  · exact whole
  · exact Int.add_nonneg whole Int.one_nonneg

theorem last_place_pos (number : ℚ) : 0 < lastPlace number := zpow_pos two_pos _

@[simp] theorem rounded_zero : rounded 0 = 0 := if_pos rfl

theorem rounded_nonneg (number : ℚ) (nonneg : 0 ≤ number) : 0 ≤ rounded number := by
  rw [rounded]
  split_ifs
  · exact le_refl 0
  · have place := last_place_pos number
    have digits := nearest_even_nonneg (number / lastPlace number) (div_nonneg nonneg place.le)
    exact mul_nonneg (Int.cast_nonneg digits) place.le

end Binary32
