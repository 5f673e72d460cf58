import Mathlib.Algebra.Order.Field.Basic
import Mathlib.Algebra.Order.Group.MinMax
import Mathlib.Order.Interval.Set.UnorderedInterval
import Mathlib.Tactic.Linarith

set_option autoImplicit false

-- A value that is brought to a target in steps of limited length.
namespace Approach

variable {K : Type} [Field K] [LinearOrder K] [IsStrictOrderedRing K]

structure Moves (target atLeast atMost previous next : K) : Prop where
  between : next ∈ Set.uIcc previous target
  limited : |next - previous| ≤ atMost
  closer : next = target ∨ |target - next| + atLeast ≤ |target - previous|

theorem moves_up (target reach atLeast atMost previous : K) (below : previous < target) (forward : 0 ≤ reach)
    (enough : atLeast ≤ reach) (bounded : reach ≤ atMost) :
    Moves target atLeast atMost previous (min (previous + reach) target) := by
  obtain short | long := le_total (previous + reach) target
  · rw [min_eq_left short]
    refine ⟨?_, ?_, Or.inr ?_⟩
    · rw [Set.uIcc_of_le below.le]
      exact ⟨by linarith, short⟩
    · rw [add_sub_cancel_left, abs_of_nonneg forward]
      exact bounded
    · rw [abs_of_nonneg (by linarith), abs_of_pos (by linarith)]
      linarith
  · rw [min_eq_right long]
    refine ⟨Set.right_mem_uIcc, ?_, Or.inl rfl⟩
    rw [abs_of_pos (by linarith)]
    linarith

theorem moves_down (target reach atLeast atMost previous : K) (above : target < previous) (forward : 0 ≤ reach)
    (enough : atLeast ≤ reach) (bounded : reach ≤ atMost) :
    Moves target atLeast atMost previous (max (previous - reach) target) := by
  obtain short | long := le_total target (previous - reach)
  · rw [max_eq_left short]
    refine ⟨?_, ?_, Or.inr ?_⟩
    · rw [Set.uIcc_of_ge above.le]
      exact ⟨short, by linarith⟩
    · rw [sub_sub_cancel_left, abs_neg, abs_of_nonneg forward]
      exact bounded
    · rw [abs_of_nonpos (by linarith), abs_of_neg (by linarith)]
      linarith
  · rw [max_eq_right long]
    refine ⟨Set.right_mem_uIcc, ?_, Or.inl rfl⟩
    rw [abs_of_neg (by linarith)]
    linarith

theorem moves_nowhere (target atLeast atMost : K) (bounded : 0 ≤ atMost) : Moves target atLeast atMost target target :=
  ⟨Set.right_mem_uIcc, by rwa [sub_self, abs_zero], Or.inl rfl⟩

omit [IsStrictOrderedRing K] in
theorem Moves.stays {target atLeast atMost previous next : K} (moves : Moves target atLeast atMost previous next)
    (arrived : previous = target) : next = target := by
  have between := moves.between
  rwa [arrived, Set.uIcc_self, Set.mem_singleton_iff] at between

variable (target rate : K) (values clock atMost : ℕ → K)
  (moves : ∀ n, Moves target (rate * (clock (n + 1) - clock n)) (atMost n) (values n) (values (n + 1)))

include moves

theorem arrived_or_closer (n : ℕ) :
    values n = target ∨ |target - values n| + rate * (clock n - clock 0) ≤ |target - values 0| := by
  induction n with
  | zero =>
      right
      rw [sub_self, mul_zero, add_zero]
  | succ n ih =>
      obtain arrived | close := ih
      · exact Or.inl ((moves n).stays arrived)
      · obtain arrived | closer := (moves n).closer
        · exact Or.inl arrived
        · right
          have split : rate * (clock (n + 1) - clock 0) = rate * (clock (n + 1) - clock n) + rate * (clock n - clock 0) := by
            rw [← mul_add, sub_add_sub_cancel]
          linarith

omit [IsStrictOrderedRing K] in
theorem stays_arrived (n m : ℕ) (arrived : values n = target) (later : n ≤ m) : values m = target := by
  induction m, later using Nat.le_induction with
  | base => exact arrived
  | succ m _ ih => exact (moves m).stays ih

theorem arrives (positive : 0 < rate) (unbounded : ∀ bound, ∃ n, bound < clock n) :
    ∃ n, ∀ m, n ≤ m → values m = target := by
  obtain ⟨n, late⟩ := unbounded (clock 0 + |target - values 0| / rate)
  have passed : |target - values 0| < rate * (clock n - clock 0) := by
    rw [← div_lt_iff₀' positive]
    linarith
  obtain arrived | close := arrived_or_closer target rate values clock atMost moves n
  · exact ⟨n, fun m later => stays_arrived target rate values clock atMost moves n m arrived later⟩
  · have distance := abs_nonneg (target - values n)
    linarith

end Approach
