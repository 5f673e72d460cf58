import RioPassthru.Lib.Runs
import Mathlib.Data.List.Basic
import Mathlib.Logic.Function.Basic
import Mathlib.Tactic.Common

set_option autoImplicit false

namespace Mailbox

variable {Key Value : Type}

inductive Op (Key Value : Type) where
  | put (key : Key) (value : Value)
  | take (key : Key)

inductive Event (Key Value : Type) where
  | put (key : Key) (value : Value)
  | took (key : Key) (value : Option Value)

def Op.key : Op Key Value → Key
  | .put key _ => key
  | .take key => key

def Event.key : Event Key Value → Key
  | .put key _ => key
  | .took key _ => key

def step [DecidableEq Key] (store : Key → Option Value) : Op Key Value → (Key → Option Value) × Event Key Value
  | .put key value => (Function.update store key (some value), .put key value)
  | .take key => (Function.update store key none, .took key (store key))

def Event.Leaves (key : Key) : Event Key Value → Prop
  | .put other _ => other ≠ key
  | .took other (some _) => other ≠ key
  | .took _ none => True

def Pending (history : List (Event Key Value)) (key : Key) (value : Value) : Prop :=
  ∃ before after, history = before ++ .put key value :: after ∧ ∀ event ∈ after, event.Leaves key

theorem not_pending_nil (key : Key) (value : Value) : ¬ Pending ([] : List (Event Key Value)) key value := by
  intro ⟨before, after, split, _⟩
  cases before <;> cases split

theorem pending_cons (event : Event Key Value) (history : List (Event Key Value)) (key : Key) (value : Value) :
    Pending (event :: history) key value ↔
      Pending history key value ∨ event = .put key value ∧ ∀ later ∈ history, later.Leaves key := by
  refine ⟨?_, ?_⟩
  · intro ⟨before, after, split, left⟩
    cases before with
    | nil =>
        injection split with head tail
        exact Or.inr ⟨head, tail ▸ left⟩
    | cons first rest =>
        injection split with _ tail
        exact Or.inl ⟨rest, after, tail, left⟩
  · intro found
    cases found with
    | inl later =>
        obtain ⟨before, after, split, left⟩ := later
        exact ⟨event :: before, after, congrArg (List.cons event) split, left⟩
    | inr now => exact ⟨[], history, congrArg (· :: history) now.1, now.2⟩

theorem pending_append (first second : List (Event Key Value)) (key : Key) (value : Value) :
    Pending (first ++ second) key value ↔
      Pending second key value ∨ Pending first key value ∧ ∀ later ∈ second, later.Leaves key := by
  induction first with
  | nil => simp [not_pending_nil]
  | cons event rest ih =>
      rw [List.cons_append, pending_cons, pending_cons, ih, List.forall_mem_append]
      tauto

theorem pending_concat (history : List (Event Key Value)) (event : Event Key Value) (key : Key) (value : Value) :
    Pending (history ++ [event]) key value ↔
      event = .put key value ∨ event.Leaves key ∧ Pending history key value := by
  rw [pending_append, pending_cons]
  simp only [not_pending_nil, false_or, List.not_mem_nil, false_imp_iff, implies_true, and_true, List.mem_singleton,
    forall_eq]
  rw [and_comm (b := Pending history key value)]

theorem pending_after_take (first second : List (Event Key Value)) (key : Key) (taken value : Value)
    (pending : Pending (first ++ .took key (some taken) :: second) key value) : Pending second key value := by
  rw [pending_append, pending_cons] at pending
  obtain (later | taking) | ⟨_, left⟩ := pending
  · exact later
  · exact absurd taking.1 (fun same => nomatch same)
  · exact absurd rfl (left _ List.mem_cons_self)

section Run

variable [DecidableEq Key]

theorem pending_step (history : List (Event Key Value)) (store : Key → Option Value) (op : Op Key Value)
    (kept : ∀ key value, Pending history key value ↔ store key = some value) (key : Key) (value : Value) :
    Pending (history ++ [(step store op).2]) key value ↔ (step store op).1 key = some value := by
  rw [pending_concat, kept]
  cases op with
  | put other stored =>
      by_cases same : other = key
      · subst same
        simp [step, Event.Leaves]
      · simp [step, Event.Leaves, same, Function.update_of_ne (Ne.symm same)]
  | take other =>
      by_cases same : other = key
      · subst same
        cases held : store other <;> simp [step, Event.Leaves, held]
      · cases held : store other <;> simp [step, Event.Leaves, held, same, Function.update_of_ne (Ne.symm same)]

theorem pending_run (ops : List (Op Key Value)) (history : List (Event Key Value)) (store : Key → Option Value)
    (kept : ∀ key value, Pending history key value ↔ store key = some value) (key : Key) (value : Value) :
    Pending (history ++ (Runs.runLog step store ops).2) key value ↔
      (Runs.runLog step store ops).1 key = some value := by
  induction ops generalizing history store with
  | nil => simpa only [Runs.runLog, List.append_nil] using kept key value
  | cons op rest ih =>
      have later := ih (history ++ [(step store op).2]) (step store op).1 (pending_step history store op kept)
      rwa [List.append_assoc, List.singleton_append] at later

theorem took_iff_pending (ops : List (Op Key Value)) (before after : List (Event Key Value)) (key : Key)
    (result : Option Value) (split : (Runs.runLog step (fun _ => none) ops).2 = before ++ .took key result :: after)
    (value : Value) : result = some value ↔ Pending before key value := by
  obtain ⟨first, op, rest, _, ran, answered, _⟩ := Runs.run_log_split step ops _ before _ after split
  have empty : ∀ key (value : Value), Pending ([] : List (Event Key Value)) key value ↔
      (fun _ => none : Key → Option Value) key = some value := by
    intro key value
    simp [not_pending_nil]
  have held := pending_run first [] (fun _ => none) empty key value
  rw [List.nil_append, ran] at held
  rw [held]
  cases op with
  | put other stored => cases answered
  | take other =>
      injection answered with sameKey sameValue
      rw [← sameValue, sameKey]

theorem took_again (ops : List (Op Key Value)) (first second third : List (Event Key Value)) (key : Key)
    (early late : Value)
    (split : (Runs.runLog step (fun _ => none) ops).2 =
      first ++ .took key (some early) :: second ++ .took key (some late) :: third) : Pending second key late :=
  pending_after_take first second key early late ((took_iff_pending ops _ _ key _ split late).mp rfl)

end Run

end Mailbox
