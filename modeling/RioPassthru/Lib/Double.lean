import Mathlib

set_option autoImplicit false

-- The values of an IEEE double that a program can tell apart: the finite ones by
-- their value, negative zero, the infinities and one NaN.
inductive Double where
  | finite (value : ℚ)
  | negZero
  | inf (negative : Bool)
  | nan
deriving DecidableEq, Repr

namespace Double

instance (n : Nat) : OfNat Double n := ⟨.finite n⟩

instance : Inhabited Double := ⟨0⟩

-- The number a comparison sees; a NaN has none.
def value : Double → Option (WithBot (WithTop ℚ))
  | .finite q => some (q : WithTop ℚ)
  | .negZero => some (0 : WithTop ℚ)
  | .inf false => some (⊤ : WithTop ℚ)
  | .inf true => some ⊥
  | .nan => none

def eq (left right : Double) : Bool :=
  match left.value, right.value with
  | some a, some b => decide (a = b)
  | _, _ => false

def lt (left right : Double) : Bool :=
  match left.value, right.value with
  | some a, some b => decide (a < b)
  | _, _ => false

def neg : Double → Double
  | .finite value => if value = 0 then .negZero else .finite (-value)
  | .negZero => 0
  | .inf negative => .inf !negative
  | .nan => .nan

def isZero (value : Double) : Bool := value.eq 0

def isInf : Double → Bool
  | .inf _ => true
  | _ => false

def isNaN : Double → Bool
  | .nan => true
  | _ => false

def isNegative : Double → Bool
  | .finite value => decide (value < 0)
  | .negZero => true
  | .inf negative => negative
  | .nan => false

def abs : Double → Double
  | .finite value => .finite |value|
  | .negZero => 0
  | .inf _ => .inf false
  | .nan => .nan

def signedZero (negative : Bool) : Double := if negative then .negZero else 0

def real : Double → ℚ
  | .finite value => value
  | _ => 0

section Arithmetic

-- What a result other than zero is rounded to; the exact numbers are those of Double.finite.
variable (round : ℚ → Double)

def sub (left right : Double) : Double :=
  if left.isNaN || right.isNaN then .nan
  else if left.isInf then if left = right then .nan else left
  else if right.isInf then right.neg
  else if left.real = right.real then signedZero (decide (left = .negZero) && decide (right ≠ .negZero))
  else round (left.real - right.real)

def mul (left right : Double) : Double :=
  let negative := left.isNegative ^^ right.isNegative
  if left.isNaN || right.isNaN then .nan
  else if left.isInf || right.isInf then if left.isZero || right.isZero then .nan else .inf negative
  else if left.isZero || right.isZero then signedZero negative
  else round (left.real * right.real)

def div (left right : Double) : Double :=
  let negative := left.isNegative ^^ right.isNegative
  if left.isNaN || right.isNaN || (left.isInf && right.isInf) || (left.isZero && right.isZero) then .nan
  else if left.isInf || right.isZero then .inf negative
  else if right.isInf || left.isZero then signedZero negative
  else round (left.real / right.real)

end Arithmetic

@[simp] theorem is_zero_zero : isZero 0 = true := by decide +kernel

theorem eq_iff (left right : Double) : left.eq right = true ↔ left.value = right.value ∧ left.value ≠ none := by
  rw [eq]
  cases left.value <;> cases right.value <;> simp

theorem eq_self (number : Double) : number.eq number = !number.isNaN := by
  rw [eq, isNaN.eq_def]
  rcases number with q | _ | negative | _
  · simp [value]
  · simp [value]
  · cases negative <;> simp [value]
  · simp [value]

@[simp] theorem is_zero_finite (number : ℚ) : isZero (.finite number) = decide (number = 0) := by
  have zero : ((number : WithTop ℚ) : WithBot (WithTop ℚ)) = ((0 : ℚ) : WithTop ℚ) ↔ number = 0 := by
    rw [WithBot.coe_inj, WithTop.coe_inj]
  exact decide_eq_decide.mpr zero

section Exact

variable (left right : ℚ)

theorem sub_exact (apart : left ≠ right) : sub .finite (.finite left) (.finite right) = .finite (left - right) := by
  simp [sub, isNaN, isInf, real, apart]

theorem mul_exact (positive : 0 < right) : mul .finite (.finite left) (.finite right) = .finite (left * right) := by
  by_cases zero : left = 0
  · subst zero
    simp [mul, isNaN, isInf, isNegative, signedZero, positive.not_gt]
    rfl
  · simp [mul, isNaN, isInf, real, zero, positive.ne']

theorem div_exact (positive : 0 < right) : div .finite (.finite left) (.finite right) = .finite (left / right) := by
  by_cases zero : left = 0
  · subst zero
    simp [div, isNaN, isInf, isNegative, signedZero, positive.not_gt, positive.ne']
    rfl
  · simp [div, isNaN, isInf, real, zero, positive.ne']

end Exact

def nonzeroOfValue : Option (WithBot (WithTop ℚ)) → Double
  | none => .nan
  | some none => .inf true
  | some (some none) => .inf false
  | some (some (some q)) => if q = 0 then .negZero else .finite q

theorem nonzero_of_value (number : Double) (nonzero : number ≠ 0) : nonzeroOfValue number.value = number := by
  rcases number with q | _ | negative | _
  · have other : q ≠ 0 := fun zero => nonzero (congrArg Double.finite zero)
    exact if_neg other
  · have zero : nonzeroOfValue negZero.value = if (0 : ℚ) = 0 then negZero else .finite 0 := rfl
    rw [zero, if_pos rfl]
  · cases negative <;> rfl
  · rfl

theorem eq_of_nonzero (left right : Double) (same : left.eq right = true) (leftNonzero : left ≠ 0)
    (rightNonzero : right ≠ 0) : left = right := by
  rw [← nonzero_of_value left leftNonzero, ← nonzero_of_value right rightNonzero, ((eq_iff left right).mp same).1]

end Double
