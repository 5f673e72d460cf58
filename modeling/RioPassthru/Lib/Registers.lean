import Mathlib

set_option autoImplicit false

-- Calls that each set one register: a register holds the last call that went to it.
namespace Registers

variable {Call Register : Type} [DecidableEq Register] (target : Call → Register)

def write (state : Register → Option Call) (call : Call) : Register → Option Call :=
  Function.update state (target call) (some call)

def run (calls : List Call) (state : Register → Option Call) : Register → Option Call :=
  calls.foldl (write target) state

def lastTo (register : Register) : List Call → Option Call
  | [] => none
  | call :: rest => (lastTo register rest).or (if target call = register then some call else none)

theorem run_eq_last_to (calls : List Call) (state : Register → Option Call) (register : Register) :
    run target calls state register = (lastTo target register calls).or (state register) := by
  induction calls generalizing state with
  | nil => rfl
  | cons call rest ih =>
      rw [run, List.foldl_cons, ← run, ih (write target state call), lastTo, Option.or_assoc]
      apply congrArg
      by_cases here : target call = register
      · subst here
        simp [write]
      · rw [if_neg here, write, Function.update_of_ne (Ne.symm here)]
        rfl

theorem last_to_append (register : Register) (first second : List Call) :
    lastTo target register (first ++ second) = (lastTo target register second).or (lastTo target register first) := by
  induction first with
  | nil => simp [lastTo]
  | cons call rest ih => rw [List.cons_append, lastTo, ih, lastTo, Option.or_assoc]

theorem last_to_eq_none (register : Register) (calls : List Call) (untouched : ∀ call ∈ calls, target call ≠ register) :
    lastTo target register calls = none := by
  induction calls with
  | nil => rfl
  | cons call rest ih =>
      obtain ⟨here, later⟩ := List.forall_mem_cons.mp untouched
      rw [lastTo, ih later, if_neg here]
      rfl

theorem untouched_of_last_to (register : Register) (calls : List Call) (none : lastTo target register calls = none) :
    ∀ call ∈ calls, target call ≠ register := by
  induction calls with
  | nil => exact List.forall_mem_nil _
  | cons head rest ih =>
      rw [lastTo, Option.or_eq_none_iff] at none
      refine List.forall_mem_cons.mpr ⟨fun same => ?_, ih none.1⟩
      rw [if_pos same] at none
      cases none.2

theorem mem_of_last_to (register : Register) (calls : List Call) (last : Call)
    (left : lastTo target register calls = some last) : last ∈ calls ∧ target last = register := by
  induction calls with
  | nil => cases left
  | cons head rest ih =>
      rw [lastTo, Option.or_eq_some_iff] at left
      obtain later | ⟨_, here⟩ := left
      · exact ⟨List.mem_cons_of_mem head (ih later).1, (ih later).2⟩
      · by_cases same : target head = register
        · rw [if_pos same, Option.some.injEq] at here
          exact ⟨here ▸ List.mem_cons_self .., here ▸ same⟩
        · rw [if_neg same] at here
          cases here

theorem last_to_retried (register : Register) (earlier calls : List Call) (again : earlier ⊆ calls) :
    lastTo target register (earlier ++ calls) = lastTo target register calls := by
  rw [last_to_append]
  cases last : lastTo target register calls with
  | some call => rfl
  | none =>
      have apart := untouched_of_last_to target register calls last
      rw [last_to_eq_none target register earlier fun call member => apart call (again member)]
      rfl

theorem last_to_of_mem (calls : List Call) (once : (calls.map target).Nodup) (call : Call) (member : call ∈ calls) :
    lastTo target (target call) calls = some call := by
  induction calls with
  | nil => cases member
  | cons head rest ih =>
      rw [List.map_cons, List.nodup_cons] at once
      rcases List.mem_cons.mp member with same | later
      · have alone : lastTo target (target call) rest = none := by
          apply last_to_eq_none
          intro other listed same'
          exact once.1 (List.mem_map.mpr ⟨other, listed, same'.trans (congrArg target same)⟩)
        rw [lastTo, alone, if_pos (congrArg target same.symm), same]
        rfl
      · rw [lastTo, ih once.2 later]
        rfl

theorem last_to_singleton (call : Call) : lastTo target (target call) [call] = some call :=
  last_to_of_mem target [call] (List.nodup_singleton _) call (List.mem_singleton_self call)

-- After the same calls, two lists of calls agree on a register whatever it held before
-- iff they leave the same call in it.
theorem run_agree_iff (before first second : List Call) (register : Register) :
    (∀ state, run target first (run target before state) register = run target second (run target before state) register) ↔
      (lastTo target register first).or (lastTo target register before) =
        (lastTo target register second).or (lastTo target register before) := by
  simp only [run_eq_last_to, ← Option.or_assoc]
  constructor
  · intro agree
    simpa only [Option.or_none] using agree fun _ => none
  · intro same state
    rw [same]

theorem run_congr (first second : List Call) (state : Register → Option Call)
    (same : ∀ register, lastTo target register first = lastTo target register second) :
    run target first state = run target second state := by
  funext register
  rw [run_eq_last_to, run_eq_last_to, same]

theorem run_settled (calls : List Call) (state : Register → Option Call)
    (settled : ∀ register call, lastTo target register calls = some call → state register = some call) :
    run target calls state = state := by
  funext register
  rw [run_eq_last_to]
  cases last : lastTo target register calls with
  | none => rfl
  | some call => exact (settled register call last).symm

theorem last_to_flat_map_congr {Group : Type} (register : Register) (first second : Group → List Call) (groups : List Group)
    (same : ∀ group ∈ groups, lastTo target register (first group) = lastTo target register (second group)) :
    lastTo target register (groups.flatMap first) = lastTo target register (groups.flatMap second) := by
  induction groups with
  | nil => rfl
  | cons group rest ih =>
      obtain ⟨here, later⟩ := List.forall_mem_cons.mp same
      rw [List.flatMap_cons, List.flatMap_cons, last_to_append, last_to_append, here, ih later]

theorem last_to_flat_map {Group : Type} (register : Register) (calls : Group → List Call) (reaches : Group → Prop)
    [DecidablePred reaches] (value : Option Call) (groups : List Group)
    (reached : ∀ group, reaches group → lastTo target register (calls group) = value)
    (others : ∀ group, ¬ reaches group → lastTo target register (calls group) = none) :
    lastTo target register (groups.flatMap calls) = if ∃ group ∈ groups, reaches group then value else none := by
  induction groups with
  | nil => simp [lastTo]
  | cons group rest ih =>
      rw [List.flatMap_cons, last_to_append, ih]
      simp only [List.mem_cons, exists_eq_or_imp]
      by_cases here : reaches group
      · rw [reached group here, if_pos (Or.inl here)]
        split <;> simp
      · rw [others group here, Option.or_none]
        simp only [here, false_or]

end Registers
