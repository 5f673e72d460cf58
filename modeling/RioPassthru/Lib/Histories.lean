import Mathlib
import RioPassthru.Lib.Runs

set_option autoImplicit false

-- What a latch and a countdown in the state of a machine say about its inputs so far.
namespace Histories

open Runs

variable {State Input : Type} (step : State → Input → State) (start : State)

theorem run_steps_concat (inputs : List Input) (input : Input) :
    runSteps step start (inputs ++ [input]) = step (runSteps step start inputs) input :=
  run_steps_append step inputs [input] start

theorem concat_split {inputs before after : List Input} {last input : Input}
    (split : inputs ++ [last] = before ++ input :: after) :
    after = [] ∧ last = input ∧ inputs = before ∨
      ∃ rest, after = rest ++ [last] ∧ inputs = before ++ input :: rest := by
  obtain rfl | ⟨rest, final, rfl⟩ := List.eq_nil_or_concat after
  · obtain ⟨same, single⟩ := List.append_inj' split rfl
    exact .inl ⟨rfl, List.singleton_inj.mp single, same⟩
  · rw [List.concat_eq_append, ← List.cons_append, ← List.append_assoc] at split
    obtain ⟨same, single⟩ := List.append_inj' split rfl
    rw [List.singleton_inj.mp single]
    exact .inr ⟨rest, List.concat_eq_append, same⟩

theorem latched_iff (flag sampled : State → Bool) (samples : Input → Bool)
    (latch : ∀ state input, flag (step state input) = if samples input then sampled state else flag state)
    (low : flag start = false) (inputs : List Input) :
    flag (runSteps step start inputs) = true ↔
      ∃ before input after, inputs = before ++ input :: after ∧ samples input = true ∧
        (∀ later ∈ after, samples later = false) ∧ sampled (runSteps step start before) = true := by
  induction inputs using List.reverseRecOn with
  | nil =>
      rw [runSteps, low]
      constructor
      · intro high
        cases high
      · rintro ⟨before, input, after, split, _⟩
        exact absurd (List.append_eq_nil_iff.mp split.symm).2 (List.cons_ne_nil input after)
  | append_singleton inputs last ih =>
      rw [run_steps_concat, latch]
      split
      · rename_i now
        constructor
        · exact fun high => ⟨inputs, last, [], rfl, now, List.forall_mem_nil _, high⟩
        · rintro ⟨before, input, after, split, _, quiet, high⟩
          obtain ⟨_, _, rfl⟩ | ⟨rest, rfl, _⟩ := concat_split split
          · exact high
          · exact absurd now (Bool.eq_false_iff.mp (quiet last (List.mem_concat_self ..)))
      · rename_i silent
        rw [ih]
        constructor
        · rintro ⟨before, input, after, split, now, quiet, high⟩
          refine ⟨before, input, after ++ [last], ?_, now, ?_, high⟩
          · rw [split, List.append_assoc, List.cons_append]
          · intro later member
            obtain earlier | same := List.mem_append.mp member
            · exact quiet later earlier
            · rw [List.mem_singleton.mp same]
              exact Bool.eq_false_iff.mpr silent
        · rintro ⟨before, input, after, split, now, quiet, high⟩
          obtain ⟨_, rfl, _⟩ | ⟨rest, rfl, same⟩ := concat_split split
          · exact absurd now silent
          · exact ⟨before, input, rest, same, now, fun later member => quiet later (List.mem_append_left _ member), high⟩

theorem countdown_iff (counter : State → Nat) (limit : Nat) (resets ticks : Input → Bool)
    (count : ∀ state input, counter (step state input) =
      if resets input then limit else if ticks input then counter state - 1 else counter state)
    (zero : counter start = 0) (inputs : List Input) (passed : Nat) :
    passed < counter (runSteps step start inputs) ↔
      ∃ before input after, inputs = before ++ input :: after ∧ resets input = true ∧
        after.countP ticks + passed < limit := by
  induction inputs using List.reverseRecOn generalizing passed with
  | nil =>
      rw [runSteps, zero]
      constructor
      · exact fun left => absurd left (Nat.not_lt_zero passed)
      · rintro ⟨before, input, after, split, _⟩
        exact absurd (List.append_eq_nil_iff.mp split.symm).2 (List.cons_ne_nil input after)
  | append_singleton inputs last ih =>
      rw [run_steps_concat, count]
      split
      · rename_i now
        constructor
        · exact fun left => ⟨inputs, last, [], rfl, now, by rwa [List.countP_nil, Nat.zero_add]⟩
        · rintro ⟨_, _, _, _, _, left⟩
          exact Nat.lt_of_le_of_lt (Nat.le_add_left ..) left
      · rename_i other
        have kept : ∀ more, (if ticks last then 1 else 0) + passed = more →
            ((∃ before input after, inputs ++ [last] = before ++ input :: after ∧ resets input = true ∧
              after.countP ticks + passed < limit) ↔
            ∃ before input after, inputs = before ++ input :: after ∧ resets input = true ∧
              after.countP ticks + more < limit) := by
          intro more same
          constructor
          · rintro ⟨before, input, after, split, now, left⟩
            obtain ⟨_, rfl, _⟩ | ⟨rest, rfl, same'⟩ := concat_split split
            · exact absurd now other
            · refine ⟨before, input, rest, same', now, ?_⟩
              rwa [List.countP_append, List.countP_singleton, Nat.add_assoc, same] at left
          · rintro ⟨before, input, after, split, now, left⟩
            refine ⟨before, input, after ++ [last], ?_, now, ?_⟩
            · rw [split, List.append_assoc, List.cons_append]
            · rwa [List.countP_append, List.countP_singleton, Nat.add_assoc, same]
        split
        · rename_i ticking
          rw [kept (1 + passed) (by rw [if_pos ticking]), ← ih]
          omega
        · rename_i quiet
          rw [kept passed (by rw [if_neg quiet, Nat.zero_add]), ← ih]

def Occurred (holds : State → Input → Prop) (inputs : List Input) : Prop :=
  ∃ before input, before ++ [input] <+: inputs ∧ holds (runSteps step start before) input

variable {step start} in
theorem occurred_concat {holds : State → Input → Prop} {inputs : List Input} (earlier : Occurred step start holds inputs)
    (input : Input) : Occurred step start holds (inputs ++ [input]) := by
  obtain ⟨before, met, within, held⟩ := earlier
  exact ⟨before, met, within.trans (List.prefix_append inputs [input]), held⟩

theorem occurred_now (holds : State → Input → Prop) (inputs : List Input) (input : Input)
    (now : holds (runSteps step start inputs) input) : Occurred step start holds (inputs ++ [input]) :=
  ⟨inputs, input, List.prefix_rfl, now⟩

-- An invariant that speaks of the inputs so far.
theorem invariant_so_far (inv : List Input → State → Prop) (first : inv [] start)
    (kept : ∀ inputs input, inv inputs (runSteps step start inputs) →
      inv (inputs ++ [input]) (step (runSteps step start inputs) input))
    (inputs : List Input) : inv inputs (runSteps step start inputs) := by
  induction inputs using List.reverseRecOn with
  | nil => exact first
  | append_singleton inputs last ih =>
      rw [run_steps_concat]
      exact kept inputs last ih

end Histories
