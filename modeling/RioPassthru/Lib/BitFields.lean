import Mathlib.Data.Nat.Bitwise

set_option autoImplicit false

-- Words packed from fields, each shifted to its place and masked to its width.
namespace BitFields

def place (value width shift : Nat) : Nat := (value <<< shift) &&& ((2 ^ width - 1) <<< shift)

def extract (word width shift : Nat) : Nat := (word >>> shift) % 2 ^ width

theorem test_bit_extract (word width shift i : Nat) :
    (extract word width shift).testBit i = (decide (i < width) && word.testBit (shift + i)) := by
  rw [extract, Nat.testBit_mod_two_pow, Nat.testBit_shiftRight]

theorem test_bit_place (value width shift i : Nat) :
    (place value width shift).testBit i = (decide (shift ≤ i ∧ i < shift + width) && value.testBit (i - shift)) := by
  rw [place, Nat.testBit_and, Nat.testBit_shiftLeft, Nat.testBit_shiftLeft, Nat.testBit_two_pow_sub_one]
  by_cases low : shift ≤ i
  · have same : i - shift < width ↔ i < shift + width := by omega
    simp [low, same, Bool.and_comm]
  · simp [low]

theorem extract_or (left right width shift : Nat) :
    extract (left ||| right) width shift = extract left width shift ||| extract right width shift := by
  apply Nat.eq_of_testBit_eq
  intro i
  rw [Nat.testBit_or, test_bit_extract, test_bit_extract, test_bit_extract, Nat.testBit_or, Bool.and_or_distrib_left]

theorem extract_place (value width shift : Nat) : extract (place value width shift) width shift = extract value width 0 := by
  apply Nat.eq_of_testBit_eq
  intro i
  rw [test_bit_extract, test_bit_place, test_bit_extract, Nat.add_sub_cancel_left, Nat.zero_add]
  by_cases inside : i < width <;> simp [inside]

theorem extract_place_apart (value width shift otherWidth otherShift : Nat)
    (apart : otherShift + otherWidth ≤ shift ∨ shift + width ≤ otherShift) :
    extract (place value width shift) otherWidth otherShift = 0 := by
  apply Nat.eq_of_testBit_eq
  intro i
  rw [test_bit_extract, test_bit_place, Nat.zero_testBit]
  by_cases inside : i < otherWidth
  · have outside : ¬(shift ≤ otherShift + i ∧ otherShift + i < shift + width) := by omega
    rw [decide_eq_false outside, Bool.false_and, Bool.and_false]
  · rw [decide_eq_false inside, Bool.false_and]

theorem extract_of_lt (value width : Nat) (small : value < 2 ^ width) : extract value width 0 = value := by
  rw [extract, Nat.shiftRight_zero, Nat.mod_eq_of_lt small]

theorem place_extract (value width shift : Nat) : place (extract value width 0) width shift = place value width shift := by
  apply Nat.eq_of_testBit_eq
  intro i
  rw [test_bit_place, test_bit_place, test_bit_extract, Nat.zero_add]
  by_cases inside : shift ≤ i ∧ i < shift + width
  · have fits : i - shift < width := by omega
    rw [decide_eq_true fits, Bool.true_and]
  · rw [decide_eq_false inside, Bool.false_and, Bool.false_and]

end BitFields
