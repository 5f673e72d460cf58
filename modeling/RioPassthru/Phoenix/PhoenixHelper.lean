import Mathlib

set_option autoImplicit false

namespace RioPassthru

-- std::map<uint16_t, Value>; the tasks convert their ids to uint16_t.
abbrev DeviceMap (Value : Type) := Std.ExtTreeMap Nat Value

theorem get_of_mem {Value : Type} (map : DeviceMap Value) (id : Nat) (held : id ∈ map) : ∃ value, map[id]? = some value :=
  ⟨map[id], Std.ExtTreeMap.getElem?_eq_some_getElem held⟩

-- operator[] leaves what a lookup with the inserted default reads.
theorem get_d_insert_if_new {Value : Type} (map : DeviceMap Value) (id : Nat) (fallback : Value) :
    (map.insertIfNew id fallback).getD id fallback = map.getD id fallback := by
  rw [Std.ExtTreeMap.getD_insertIfNew]
  by_cases known : id ∈ map
  · rw [if_neg (fun fresh => fresh.2 known)]
  · rw [if_pos ⟨Std.ReflCmp.compare_self, known⟩, Std.ExtTreeMap.getD_eq_fallback known]

def keySet {Value : Type} (map : DeviceMap Value) : Finset Nat := map.keys.toFinset

theorem mem_key_set {Value : Type} (map : DeviceMap Value) (id : Nat) : id ∈ keySet map ↔ id ∈ map := by
  rw [keySet, List.mem_toFinset, Std.ExtTreeMap.mem_keys]

theorem card_key_set {Value : Type} (map : DeviceMap Value) : (keySet map).card = map.size := by
  rw [keySet, List.toFinset_card_of_nodup Std.ExtTreeMap.nodup_keys, Std.ExtTreeMap.length_keys]

theorem key_set_insert {Value : Type} (map : DeviceMap Value) (id : Nat) (value : Value) :
    keySet (map.insert id value) = insert id (keySet map) := by
  ext key
  rw [mem_key_set, Finset.mem_insert, mem_key_set, Std.ExtTreeMap.mem_insert, Std.LawfulEqCmp.compare_eq_iff_eq, eq_comm]

def uint16 (id : Int) : Nat := (id % 65536).toNat

inductive ErrorCode where
  | OK
  | GeneralError
  | other (code : Int)
deriving DecidableEq, Repr

-- What a closure returns for the codes of the calls it makes: the code itself for one
-- call, and for more of them whether all succeeded.
def closureCode : List ErrorCode → ErrorCode
  | [eCode] => eCode
  | codes => if codes.all fun code => code = .OK then .OK else .GeneralError

structure DeviceWrite where
  attempts : List (List ErrorCode)
  succeeded : Bool
deriving DecidableEq, Repr

def DeviceWrite.lastAttemptOk (write : DeviceWrite) : Bool :=
  match write.attempts.getLast? with
  | some codes => codes.all fun code => code = .OK
  | none => true

abbrev EntryOutcomes := Nat → Nat → Nat → ErrorCode

-- What one entry of a configuration message led to; stored is whether the task kept it as
-- the previous configuration of its id.
structure DeviceEntryRun where
  writes : List DeviceWrite
  stored : Bool
deriving DecidableEq, Repr

def StoredOnlyIfApplied (stored : Bool) (writes : List DeviceWrite) : Prop :=
  stored = true → ∀ write ∈ writes, write.lastAttemptOk = true

instance (stored : Bool) (writes : List DeviceWrite) : Decidable (StoredOnlyIfApplied stored writes) :=
  inferInstanceAs (Decidable (_ = true → ∀ write ∈ writes, _ = true))

def FailedWritesReissued {Call : Type} (issued : List (List Call)) (writes : List DeviceWrite) (again : List (List Call)) : Prop :=
  ∀ turn ∈ issued.zip writes, turn.2.lastAttemptOk = false → turn.1 ∈ again

structure RetryLoop where
  attempts : List (List ErrorCode)
  retryCounter : Nat
  eCode : ErrorCode

namespace Phoenix

def kPhoenixRetryCount : Nat := 3

-- The do-while loop: func answers its n-th call, and left is kPhoenixRetryCount - retryCounter.
def retryLoop (func : Nat → List ErrorCode) (retryCounter left : Nat) : RetryLoop :=
  let eCode := closureCode (func retryCounter)
  if eCode = .OK then ⟨[func retryCounter], retryCounter, eCode⟩
  else
    match left with
    | 0 => ⟨[func retryCounter], retryCounter + 1, eCode⟩
    | left + 1 =>
        let later := retryLoop func (retryCounter + 1) left
        ⟨func retryCounter :: later.attempts, later.retryCounter, later.eCode⟩
termination_by structural left

def runPhoenixFunctionWithRetry (calls : Nat) (outcomes : Nat → Nat → ErrorCode) : DeviceWrite :=
  let loop := retryLoop (fun attempt => (List.range calls).map (outcomes attempt)) 0 kPhoenixRetryCount
  ⟨loop.attempts, !(decide (kPhoenixRetryCount ≤ loop.retryCounter) || decide (loop.eCode ≠ .OK))⟩

def runWrites {Call : Type} (outcomes : EntryOutcomes) (writes : List (List Call)) : List DeviceWrite :=
  writes.mapIdx fun index calls => runPhoenixFunctionWithRetry calls.length (outcomes index)

def runOnce (outcomes : Nat → Nat → ErrorCode) : DeviceWrite := ⟨[[outcomes 0 0]], decide (outcomes 0 0 = .OK)⟩

def getCANInterfaceName (canInterface : Int) : String :=
  if canInterface = 1 then "canivore1" else "rio"

theorem closure_code_ok_iff (codes : List ErrorCode) : closureCode codes = .OK ↔ ∀ code ∈ codes, code = .OK := by
  cases codes with
  | nil => simp [closureCode]
  | cons code rest =>
      cases rest with
      | nil => simp [closureCode]
      | cons next rest => simp [closureCode]

theorem retry_loop_stops (func : Nat → List ErrorCode) (retryCounter left : Nat) :
    let loop := retryLoop func retryCounter left
    ∃ last ≤ left, loop.attempts = (List.range' retryCounter (last + 1)).map func ∧
      (∀ call < last, closureCode (func (retryCounter + call)) ≠ .OK) ∧
      loop.eCode = closureCode (func (retryCounter + last)) ∧
      (loop.eCode = .OK ∧ loop.retryCounter = retryCounter + last ∨
        loop.eCode ≠ .OK ∧ last = left ∧ loop.retryCounter = retryCounter + left + 1) := by
  induction left generalizing retryCounter with
  | zero =>
      rw [retryLoop]
      refine ⟨0, Nat.le_refl 0, ?_⟩
      by_cases done : closureCode (func retryCounter) = .OK
      · rw [if_pos done]
        exact ⟨rfl, fun _ below => absurd below (Nat.not_lt_zero _), rfl, Or.inl ⟨done, rfl⟩⟩
      · rw [if_neg done]
        exact ⟨rfl, fun _ below => absurd below (Nat.not_lt_zero _), rfl, Or.inr ⟨done, rfl, rfl⟩⟩
  | succ left ih =>
      rw [retryLoop]
      by_cases done : closureCode (func retryCounter) = .OK
      · rw [if_pos done]
        exact ⟨0, Nat.zero_le _, rfl, fun _ below => absurd below (Nat.not_lt_zero _), rfl, Or.inl ⟨done, rfl⟩⟩
      · obtain ⟨last, within, attempts, failed, code, ended⟩ := ih (retryCounter + 1)
        have shift : ∀ call, retryCounter + 1 + call = retryCounter + (call + 1) := fun call => by omega
        rw [if_neg done]
        refine ⟨last + 1, Nat.succ_le_succ within, ?_, ?_, ?_, ?_⟩
        · rw [List.range'_succ, List.map_cons, ← attempts]
        · intro call below
          cases call with
          | zero => exact done
          | succ call => exact shift call ▸ failed call (Nat.lt_of_succ_lt_succ below)
        · rw [code, shift]
        · obtain ⟨ok, stopped⟩ | ⟨notOk, exhausted, stopped⟩ := ended
          · exact Or.inl ⟨ok, stopped.trans (shift last)⟩
          · exact Or.inr ⟨notOk, congrArg (· + 1) exhausted, stopped.trans (congrArg (· + 1) (shift left))⟩

theorem retry_loop_spec (func : Nat → List ErrorCode) (retryCounter left : Nat) :
    let loop := retryLoop func retryCounter left
    loop.attempts ≠ [] ∧ (∀ codes, loop.attempts.getLast? = some codes → loop.eCode = closureCode codes) ∧
      (loop.eCode = .OK ↔ ∃ attempt, retryCounter ≤ attempt ∧ attempt ≤ retryCounter + left ∧ closureCode (func attempt) = .OK) ∧
      (loop.eCode = .OK ∧ loop.retryCounter < retryCounter + left ↔
        ∃ attempt, retryCounter ≤ attempt ∧ attempt < retryCounter + left ∧ closureCode (func attempt) = .OK) := by
  obtain ⟨last, within, attempts, failed, code, ended⟩ := retry_loop_stops func retryCounter left
  have reached : ∀ attempt, retryCounter ≤ attempt → closureCode (func attempt) = .OK → retryCounter + last ≤ attempt := by
    intro attempt lower ok
    obtain early | late := Nat.lt_or_ge attempt (retryCounter + last)
    · have here := failed (attempt - retryCounter) (by omega)
      rw [Nat.add_sub_cancel' lower] at here
      exact absurd ok here
    · exact late
  refine ⟨?_, ?_, ?_, ?_⟩
  · rw [attempts, List.range'_succ, List.map_cons]
    exact List.cons_ne_nil _ _
  · intro codes final
    rw [attempts, List.range'_1_concat, List.map_append, List.map_singleton, List.getLast?_concat] at final
    rw [code, Option.some.inj final]
  · refine ⟨fun ok => ⟨retryCounter + last, by omega, by omega, code ▸ ok⟩, ?_⟩
    intro ⟨attempt, lower, upper, ok⟩
    obtain ⟨done, -⟩ | ⟨-, exhausted, -⟩ := ended
    · exact done
    · have same : attempt = retryCounter + last := by
        have bound := reached attempt lower ok
        omega
      rw [code, ← same, ok]
  · refine ⟨?_, ?_⟩
    · intro ⟨ok, early⟩
      obtain ⟨-, stopped⟩ | ⟨notOk, -, -⟩ := ended
      · exact ⟨retryCounter + last, by omega, stopped ▸ early, code ▸ ok⟩
      · exact absurd ok notOk
    · intro ⟨attempt, lower, upper, ok⟩
      have bound := reached attempt lower ok
      obtain ⟨done, stopped⟩ | ⟨-, exhausted, -⟩ := ended
      · exact ⟨done, by omega⟩
      · omega

section Retry

variable (calls : Nat) (outcomes : Nat → Nat → ErrorCode)

def Answered : Prop := ∃ attempt ≤ kPhoenixRetryCount, ∀ call < calls, outcomes attempt call = .OK

def Accepted : Prop := ∃ attempt < kPhoenixRetryCount, ∀ call < calls, outcomes attempt call = .OK

theorem attempt_code_iff (attempt : Nat) :
    closureCode ((List.range calls).map (outcomes attempt)) = .OK ↔ ∀ call < calls, outcomes attempt call = .OK := by
  rw [closure_code_ok_iff]
  simp

theorem last_attempt_ok_iff :
    (runPhoenixFunctionWithRetry calls outcomes).lastAttemptOk = true ↔ Answered calls outcomes := by
  rw [Answered]
  obtain ⟨issued, last, ok, _⟩ :=
    retry_loop_spec (fun attempt => (List.range calls).map (outcomes attempt)) 0 kPhoenixRetryCount
  simp only [Nat.zero_le, true_and, Nat.zero_add, attempt_code_iff] at ok
  rw [← ok, DeviceWrite.lastAttemptOk, runPhoenixFunctionWithRetry]
  obtain ⟨codes, final⟩ := Option.ne_none_iff_exists'.mp (fun none => issued (List.getLast?_eq_none_iff.mp none))
  simp only [final, last codes final, closure_code_ok_iff, List.all_eq_true, decide_eq_true_eq]

-- A write that succeeds with its last attempt only still counts as failed.
theorem succeeded_iff :
    (runPhoenixFunctionWithRetry calls outcomes).succeeded = true ↔ Accepted calls outcomes := by
  rw [Accepted]
  obtain ⟨_, _, _, early⟩ :=
    retry_loop_spec (fun attempt => (List.range calls).map (outcomes attempt)) 0 kPhoenixRetryCount
  simp only [Nat.zero_le, true_and, Nat.zero_add, attempt_code_iff] at early
  rw [← early, runPhoenixFunctionWithRetry]
  simp only [Bool.not_eq_true', Bool.or_eq_false_iff, decide_eq_false_iff_not, not_not, Nat.not_le]
  exact And.comm

theorem last_attempt_ok_of_succeeded (done : (runPhoenixFunctionWithRetry calls outcomes).succeeded = true) :
    (runPhoenixFunctionWithRetry calls outcomes).lastAttemptOk = true := by
  obtain ⟨attempt, early, ok⟩ := (succeeded_iff calls outcomes).mp done
  exact (last_attempt_ok_iff calls outcomes).mpr ⟨attempt, Nat.le_of_lt early, ok⟩

end Retry

theorem run_writes_ok_of_succeeded {Call : Type} (outcomes : EntryOutcomes) (writes : List (List Call))
    (done : (runWrites outcomes writes).all DeviceWrite.succeeded = true) :
    ∀ write ∈ runWrites outcomes writes, write.lastAttemptOk = true := by
  intro write member
  obtain ⟨index, found⟩ := List.mem_iff_getElem?.mp member
  have succeeded := List.all_eq_true.mp done write member
  rw [runWrites, List.getElem?_mapIdx, Option.map_eq_some_iff] at found
  obtain ⟨calls, _, same⟩ := found
  rw [← same] at succeeded ⊢
  exact last_attempt_ok_of_succeeded _ _ succeeded

theorem run_writes_ok_iff {Call : Type} (outcomes : EntryOutcomes) (writes : List (List Call)) :
    (∀ write ∈ runWrites outcomes writes, write.lastAttemptOk = true) ↔
      ∀ index calls, writes[index]? = some calls → Answered calls.length (outcomes index) := by
  simp only [runWrites, List.mem_iff_getElem?, List.getElem?_mapIdx, Option.map_eq_some_iff]
  constructor
  · intro ok index calls found
    exact (last_attempt_ok_iff _ _).mp (ok _ ⟨index, calls, found, rfl⟩)
  · rintro answered write ⟨index, calls, found, same⟩
    rw [← same]
    exact (last_attempt_ok_iff _ _).mpr (answered index calls found)

theorem failed_writes_reissued_of_ok {Call : Type} (issued again : List (List Call)) (writes : List DeviceWrite)
    (ok : ∀ write ∈ writes, write.lastAttemptOk = true) : FailedWritesReissued issued writes again := by
  intro turn member failed
  have done := ok turn.2 (List.of_mem_zip member).2
  exact absurd failed (ne_false_of_eq_true done)

theorem failed_writes_reissued_of_subset {Call : Type} (issued again : List (List Call)) (writes : List DeviceWrite)
    (repeated : issued ⊆ again) : FailedWritesReissued issued writes again :=
  fun _ member _ => repeated (List.of_mem_zip member).1

theorem failed_writes_reissued_append {Call : Type} (first second again : List (List Call)) (early late : List DeviceWrite)
    (aligned : first.length = early.length) :
    FailedWritesReissued (first ++ second) (early ++ late) again ↔
      FailedWritesReissued first early again ∧ FailedWritesReissued second late again := by
  rw [FailedWritesReissued, List.zip_append aligned, List.forall_mem_append]
  exact Iff.rfl

theorem run_writes_ok_of_reissued {Call : Type} (outcomes : EntryOutcomes) (issued again : List (List Call))
    (absent : ∀ calls ∈ issued, calls ∉ again) (reissued : FailedWritesReissued issued (runWrites outcomes issued) again) :
    ∀ write ∈ runWrites outcomes issued, write.lastAttemptOk = true := by
  intro write member
  obtain ⟨index, within, found⟩ := List.mem_iff_getElem.mp member
  have bound : index < issued.length := by simpa [runWrites] using within
  have turn : (issued[index], write) ∈ issued.zip (runWrites outcomes issued) := by
    have both : index < (issued.zip (runWrites outcomes issued)).length := by
      rw [List.length_zip]
      exact Nat.lt_min.mpr ⟨bound, within⟩
    rw [← found, ← List.getElem_zip]
    exact List.getElem_mem both
  rw [← Bool.not_eq_false]
  exact fun failed => absent _ (List.getElem_mem bound) (reissued _ turn failed)

end Phoenix

end RioPassthru
