import RioPassthru.Phoenix.PhoenixHelper

set_option autoImplicit false

namespace RioPassthru

namespace Phoenix

section Report

variable (retryCount : Nat) (func : Nat → ErrorCode)

-- runPhoenixFunctionWithRetry with retryCount in place of kPhoenixRetryCount; func answers its n-th call.
def runWithRetryCount : DeviceWrite :=
  let loop := retryLoop (fun call => [func call]) 0 retryCount
  ⟨loop.attempts, !(decide (retryCount ≤ loop.retryCounter) || decide (loop.eCode ≠ .OK))⟩

theorem run_with_k_phoenix_retry_count :
    runWithRetryCount kPhoenixRetryCount func = runPhoenixFunctionWithRetry 1 (fun attempt _ => func attempt) := rfl

def ReportsTruth : Prop :=
  let write := runWithRetryCount retryCount func
  ∃ last, write.attempts = (List.range (last + 1)).map (fun call => [func call]) ∧ last + 1 ≤ retryCount + 1 ∧
    (∀ call < last, func call ≠ .OK) ∧ (write.succeeded = true ↔ func last = .OK)

def OnlyLastAttemptOk : Prop := (∀ call < retryCount, func call ≠ .OK) ∧ func retryCount = .OK

theorem run_with_retry_count_spec :
    let write := runWithRetryCount retryCount func
    ∃ last ≤ retryCount, write.attempts = (List.range (last + 1)).map (fun call => [func call]) ∧
      (∀ call < last, func call ≠ .OK) ∧ (func last ≠ .OK → last = retryCount) ∧
      (write.succeeded = true ↔ func last = .OK ∧ last < retryCount) := by
  obtain ⟨last, within, attempts, failed, code, ended⟩ := retry_loop_stops (fun call => [func call]) 0 retryCount
  rw [Nat.zero_add] at code ended
  have answered : func last = (retryLoop (fun call => [func call]) 0 retryCount).eCode := code.symm
  refine ⟨last, within, ?_, ?_, ?_, ?_⟩
  · rw [List.range_eq_range']
    exact attempts
  · intro call below
    have here := failed call below
    rw [Nat.zero_add] at here
    exact here
  · intro notOk
    rw [answered] at notOk
    obtain ⟨ok, -⟩ | ⟨-, exhausted, -⟩ := ended
    · exact absurd ok notOk
    · exact exhausted
  · simp only [runWithRetryCount, Bool.not_eq_true', Bool.or_eq_false_iff, decide_eq_false_iff_not, not_not, Nat.not_le]
    rw [answered]
    obtain ⟨ok, stopped⟩ | ⟨notOk, -, -⟩ := ended
    · rw [stopped]
      exact And.comm
    · exact ⟨fun both => absurd both.2 notOk, fun both => absurd both.1 notOk⟩

theorem attempts_last_unique {first second : Nat}
    (same : (List.range (first + 1)).map (fun call => [func call]) = (List.range (second + 1)).map (fun call => [func call])) :
    first = second := by
  have lengths := congrArg List.length same
  rw [List.length_map, List.length_map, List.length_range, List.length_range] at lengths
  exact Nat.succ.inj lengths

-- The counter that the last permitted call leaves counts as a failure, whatever that call returned.
theorem reports_truth_iff : ReportsTruth retryCount func ↔ ¬ OnlyLastAttemptOk retryCount func := by
  obtain ⟨last, within, attempts, failed, exhausted, succeeded⟩ := run_with_retry_count_spec retryCount func
  refine ⟨?_, ?_⟩
  · intro ⟨final, made, _, _, reported⟩ ⟨others, ok⟩
    have same : final = last := attempts_last_unique func (made.symm.trans attempts)
    have end_ : last = retryCount := by
      obtain early | here := Nat.lt_or_eq_of_le within
      · exact exhausted (others last early)
      · exact here
    rw [same, succeeded, end_] at reported
    exact absurd (reported.mpr ok).2 (Nat.lt_irrefl retryCount)
  · intro allowed
    refine ⟨last, attempts, Nat.succ_le_succ within, failed, succeeded.trans ?_⟩
    refine ⟨And.left, fun ok => ⟨ok, ?_⟩⟩
    obtain early | late := Nat.lt_or_eq_of_le within
    · exact early
    · subst late
      exact absurd ⟨failed, ok⟩ allowed

end Report

def thirdRetryOk : Nat → ErrorCode := fun call => if call < 3 then .GeneralError else .OK

theorem third_retry_reported_failed :
    ¬ ∀ retryCount ≥ 1, ∀ func : Nat → ErrorCode, ReportsTruth retryCount func := by
  intro always
  obtain ⟨last, made, _, _, reported⟩ := always 3 (by decide) thirdRetryOk
  have same : last = 3 := attempts_last_unique thirdRetryOk (made.symm.trans (by decide))
  subst same
  exact absurd (reported.mpr (by decide)) (by decide)

end Phoenix

end RioPassthru
