import Mathlib.Logic.Basic

set_option autoImplicit false

namespace Runs

variable {State Input : Type}

def runSteps (step : State → Input → State) : State → List Input → State
  | state, [] => state
  | state, input :: rest => runSteps step (step state input) rest

-- holds is asked of every pair of a state the run is in and the input it takes there.
def EachStep (step : State → Input → State) (holds : State → Input → Prop) : State → List Input → Prop
  | _, [] => True
  | state, input :: rest => holds state input ∧ EachStep step holds (step state input) rest

instance decidableEachStep (step : State → Input → State) (holds : State → Input → Prop)
    [∀ state input, Decidable (holds state input)] :
    (state : State) → (inputs : List Input) → Decidable (EachStep step holds state inputs)
  | _, [] => .isTrue trivial
  | state, input :: rest =>
      have := decidableEachStep step holds (step state input) rest
      inferInstanceAs (Decidable (holds state input ∧ EachStep step holds (step state input) rest))

theorem run_steps_invariant (step : State → Input → State) (inv : State → Prop)
    (kept : ∀ state input, inv state → inv (step state input))
    (inputs : List Input) (state : State) (start : inv state) : inv (runSteps step state inputs) := by
  induction inputs generalizing state with
  | nil => exact start
  | cons input rest ih => exact ih (step state input) (kept state input start)

theorem run_steps_append (step : State → Input → State) (first second : List Input) (state : State) :
    runSteps step state (first ++ second) = runSteps step (runSteps step state first) second := by
  induction first generalizing state with
  | nil => rfl
  | cons input rest ih => exact ih (step state input)

theorem run_steps_while (step : State → Input → State) (inv : State → Prop) (allowed : Input → Prop)
    (kept : ∀ state input, inv state → allowed input → inv (step state input)) (inputs : List Input) (state : State)
    (start : inv state) (met : ∀ input ∈ inputs, allowed input) : inv (runSteps step state inputs) := by
  induction inputs generalizing state with
  | nil => exact start
  | cons input rest ih =>
      obtain ⟨now, later⟩ := List.forall_mem_cons.mp met
      exact ih (step state input) (kept state input start now) later

theorem run_steps_view {View : Type} (step : State → Input → State) (view : State → View) (small : View → Input → View)
    (own : ∀ state input, view (step state input) = small (view state) input) (inputs : List Input) (state : State) :
    view (runSteps step state inputs) = runSteps small (view state) inputs := by
  induction inputs generalizing state with
  | nil => rfl
  | cons input rest ih => rw [runSteps, runSteps, ih, own]

theorem run_steps_map (step : State → Input → State) (onState : State → State) (onInput : Input → Input)
    (allowed : Input → Prop) (commutes : ∀ state input, allowed input → step (onState state) (onInput input) = onState (step state input))
    (inputs : List Input) (state : State) (met : ∀ input ∈ inputs, allowed input) :
    runSteps step (onState state) (inputs.map onInput) = onState (runSteps step state inputs) := by
  induction inputs generalizing state with
  | nil => rfl
  | cons input rest ih =>
      obtain ⟨now, later⟩ := List.forall_mem_cons.mp met
      rw [List.map_cons, runSteps, commutes state input now, ih _ later, runSteps]

theorem each_step_append (step : State → Input → State) (holds : State → Input → Prop) (first second : List Input)
    (state : State) : EachStep step holds state (first ++ second) ↔
      EachStep step holds state first ∧ EachStep step holds (runSteps step state first) second := by
  induction first generalizing state with
  | nil => exact ⟨fun later => ⟨trivial, later⟩, And.right⟩
  | cons input rest ih =>
      rw [List.cons_append, EachStep, ih, EachStep, runSteps, and_assoc]

-- The invariant may need the condition on the inputs to be kept, and the goal to follow.
theorem each_step_of_invariant (step : State → Input → State) (inv : State → Prop)
    (allowed goal : State → Input → Prop)
    (proceed : ∀ state input, inv state → allowed state input → goal state input ∧ inv (step state input))
    (inputs : List Input) (state : State) (start : inv state)
    (met : EachStep step allowed state inputs) : EachStep step goal state inputs := by
  induction inputs generalizing state with
  | nil => trivial
  | cons input rest ih =>
      obtain ⟨now, later⟩ := met
      obtain ⟨reached, next⟩ := proceed state input start now
      exact ⟨reached, ih (step state input) next later⟩

theorem each_step_of_kept (step : State → Input → State) (inv : State → Prop) (goal : State → Input → Prop)
    (kept : ∀ state input, inv state → inv (step state input)) (implies : ∀ state input, inv state → goal state input)
    (inputs : List Input) (state : State) (start : inv state) : EachStep step goal state inputs := by
  induction inputs generalizing state with
  | nil => trivial
  | cons input rest ih => exact ⟨implies state input start, ih (step state input) (kept state input start)⟩

theorem each_step_mono (step : State → Input → State) (weaker stronger : State → Input → Prop)
    (implies : ∀ state input, stronger state input → weaker state input)
    (inputs : List Input) (state : State) (met : EachStep step stronger state inputs) :
    EachStep step weaker state inputs :=
  each_step_of_invariant step (fun _ => True) stronger weaker
    (fun s input _ now => ⟨implies s input now, trivial⟩) inputs state trivial met

theorem each_step_congr (step : State → Input → State) (left right : State → Input → Prop)
    (same : ∀ state input, left state input ↔ right state input) (inputs : List Input) (state : State) :
    EachStep step left state inputs ↔ EachStep step right state inputs :=
  ⟨each_step_mono step right left (fun s i => (same s i).mp) inputs state,
    each_step_mono step left right (fun s i => (same s i).mpr) inputs state⟩

theorem each_step_iff_of_invariant (step : State → Input → State) (inv : State → Prop)
    (left right : State → Input → Prop) (agree : ∀ state input, inv state → (left state input ↔ right state input))
    (kept : ∀ state input, inv state → right state input → inv (step state input))
    (inputs : List Input) (state : State) (start : inv state) :
    EachStep step left state inputs ↔ EachStep step right state inputs := by
  constructor
  · refine each_step_of_invariant step inv left right ?_ inputs state start
    intro s input present met
    have allowed := (agree s input present).mp met
    exact ⟨allowed, kept s input present allowed⟩
  · refine each_step_of_invariant step inv right left ?_ inputs state start
    intro s input present allowed
    exact ⟨(agree s input present).mpr allowed, kept s input present allowed⟩

-- A run that is simulated step by step meets its condition where the simulating one meets its own.
theorem each_step_iff_of_simulation {Abstract Event : Type} (step : State → Input → State) (next : Abstract → Event → Abstract)
    (observe : Input → Event) (related : State → Abstract → Prop) (left : State → Input → Prop) (right : Abstract → Event → Prop)
    (agree : ∀ state abstract input, related state abstract → (left state input ↔ right abstract (observe input)))
    (simulated : ∀ state abstract input, related state abstract → related (step state input) (next abstract (observe input)))
    (inputs : List Input) (state : State) (abstract : Abstract) (start : related state abstract) :
    EachStep step left state inputs ↔ EachStep next right abstract (inputs.map observe) := by
  induction inputs generalizing state abstract with
  | nil => exact Iff.rfl
  | cons input rest ih =>
      rw [List.map_cons, EachStep, EachStep]
      exact and_congr (agree state abstract input start) (ih _ _ (simulated state abstract input start))

theorem each_step_and {step : State → Input → State} {left right : State → Input → Prop}
    {inputs : List Input} {state : State} (first : EachStep step left state inputs)
    (second : EachStep step right state inputs) :
    EachStep step (fun s input => left s input ∧ right s input) state inputs := by
  induction inputs generalizing state with
  | nil => trivial
  | cons input rest ih => exact ⟨⟨first.1, second.1⟩, ih first.2 second.2⟩

theorem each_step_and_iff (step : State → Input → State) (left right : State → Input → Prop)
    (inputs : List Input) (state : State) :
    EachStep step left state inputs ∧ EachStep step right state inputs ↔
      EachStep step (fun s input => left s input ∧ right s input) state inputs := by
  constructor
  · exact fun both => each_step_and both.1 both.2
  · intro both
    exact ⟨each_step_mono step _ _ (fun _ _ => And.left) inputs state both,
      each_step_mono step _ _ (fun _ _ => And.right) inputs state both⟩

theorem each_step_inputs (step : State → Input → State) (holds : Input → Prop) (inputs : List Input) (state : State) :
    EachStep step (fun _ input => holds input) state inputs ↔ ∀ input ∈ inputs, holds input := by
  induction inputs generalizing state with
  | nil => simp [EachStep]
  | cons input rest ih => rw [EachStep, ih, List.forall_mem_cons]

def runLog {Output : Type} (step : State → Input → State × Output) : State → List Input → State × List Output
  | state, [] => (state, [])
  | state, input :: rest =>
      let first := step state input
      let later := runLog step first.1 rest
      (later.1, first.2 :: later.2)

theorem run_log_forall {Output : Type} (step : State → Input → State × Output) (holds : Output → Prop)
    (inputs : List Input) (state : State) :
    (∀ output ∈ (runLog step state inputs).2, holds output) ↔
      EachStep (fun state input => (step state input).1) (fun state input => holds (step state input).2) state inputs := by
  induction inputs generalizing state with
  | nil => simp [runLog, EachStep]
  | cons input rest ih => rw [runLog, List.forall_mem_cons, ih, EachStep]

theorem run_log_length {Output : Type} (step : State → Input → State × Output) (inputs : List Input) (state : State) :
    (runLog step state inputs).2.length = inputs.length := by
  induction inputs generalizing state with
  | nil => rfl
  | cons input rest ih => rw [runLog, List.length_cons, ih, List.length_cons]

theorem run_log_append {Output : Type} (step : State → Input → State × Output) (first second : List Input) (state : State) :
    runLog step state (first ++ second) =
      ((runLog step (runLog step state first).1 second).1,
        (runLog step state first).2 ++ (runLog step (runLog step state first).1 second).2) := by
  induction first generalizing state with
  | nil => rfl
  | cons input rest ih => rw [List.cons_append, runLog, ih, runLog, List.cons_append]

theorem run_log_map {Output : Type} (step : State → Input → State × Output) (onState : State → State)
    (onInput : Input → Input) (onOutput : Output → Output) (allowed : Input → Prop)
    (commutes : ∀ state input, allowed input →
      step (onState state) (onInput input) = (onState (step state input).1, onOutput (step state input).2))
    (inputs : List Input) (state : State) (met : ∀ input ∈ inputs, allowed input) :
    runLog step (onState state) (inputs.map onInput) =
      (onState (runLog step state inputs).1, (runLog step state inputs).2.map onOutput) := by
  induction inputs generalizing state with
  | nil => rfl
  | cons input rest ih =>
      obtain ⟨now, later⟩ := List.forall_mem_cons.mp met
      rw [List.map_cons, runLog, commutes state input now, ih _ later, runLog, List.map_cons]

-- When each step's answers take a protocol from the phase of one state to that of the next, so do a run's.
theorem run_log_accepted {Call Phase : Type} (step : State → Input → State × List Call) (next : Phase → Call → Option Phase)
    (phase : State → Phase)
    (accepted : ∀ state input, (step state input).2.foldlM next (phase state) = some (phase (step state input).1))
    (inputs : List Input) (state : State) :
    (runLog step state inputs).2.flatten.foldlM next (phase state) = some (phase (runLog step state inputs).1) := by
  induction inputs generalizing state with
  | nil => rfl
  | cons input rest ih =>
      rw [runLog, List.flatten_cons, List.foldlM_append, accepted]
      exact ih (step state input).1

theorem run_log_split {Output : Type} (step : State → Input → State × Output) (inputs : List Input) (state : State)
    (before : List Output) (output : Output) (after : List Output)
    (split : (runLog step state inputs).2 = before ++ output :: after) :
    ∃ first input rest, inputs = first ++ input :: rest ∧ (runLog step state first).2 = before ∧
      (step (runLog step state first).1 input).2 = output ∧
      (runLog step (step (runLog step state first).1 input).1 rest).2 = after := by
  induction inputs generalizing state before with
  | nil => cases before <;> cases split
  | cons input rest ih =>
      rw [runLog] at split
      cases before with
      | nil =>
          injection split with head tail
          exact ⟨[], input, rest, rfl, rfl, head, tail⟩
      | cons answer others =>
          injection split with head tail
          obtain ⟨first, found, later, same, ran, answered, remaining⟩ := ih (step state input).1 others tail
          exact ⟨input :: first, found, later, congrArg (List.cons input) same,
            congr (congrArg List.cons head) ran, answered, remaining⟩

-- Inputs of one kind only see, and only change, their own view of the state.
theorem run_log_filter {Output View : Type} (step : State → Input → State × Output) (mine : Input → Bool)
    (own : Output → Bool) (view : State → View) (owned : ∀ state input, own (step state input).2 = mine input)
    (others : ∀ state input, mine input = false → view (step state input).1 = view state)
    (answers : ∀ left right input, mine input = true → view left = view right →
      (step left input).2 = (step right input).2 ∧ view (step left input).1 = view (step right input).1)
    (inputs : List Input) (left right : State) (same : view left = view right) :
    (runLog step left inputs).2.filter own = (runLog step right (inputs.filter mine)).2 := by
  induction inputs generalizing left right with
  | nil => rfl
  | cons input rest ih =>
      rw [runLog, List.filter_cons, List.filter_cons, owned]
      by_cases kind : mine input = true
      · obtain ⟨answer, later⟩ := answers left right input kind same
        rw [if_pos kind, if_pos kind, runLog, ih _ _ later, answer]
      · rw [if_neg kind, if_neg kind]
        exact ih _ _ ((others left input (Bool.eq_false_iff.mpr kind)).trans same)

end Runs
