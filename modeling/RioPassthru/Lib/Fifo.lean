import RioPassthru.Lib.Runs

set_option autoImplicit false

-- A queue that some steps put an item into and some take one out of, by what each step does
-- to its contents.
namespace Fifo

open Runs

variable {State Input Output Item : Type} (step : State → Input → State × Output) (contents : State → List Item)
  (accepted written : Output → Option Item)

def Conserves (state : State) (outcome : State × Output) : Prop :=
  contents state ++ (accepted outcome.2).toList = (written outcome.2).toList ++ contents outcome.1

theorem filter_map_cons (seen : Output → Option Item) (output : Output) (rest : List Output) :
    (output :: rest).filterMap seen = (seen output).toList ++ rest.filterMap seen := by
  rw [List.filterMap_cons]
  cases seen output <;> rfl

variable (inv : State → Prop)
  (kept : ∀ state input, inv state → inv (step state input).1 ∧ Conserves contents accepted written state (step state input))

include kept

theorem run_conserves (inputs : List Input) (state : State) (start : inv state) :
    inv (runLog step state inputs).1 ∧
      contents state ++ (runLog step state inputs).2.filterMap accepted =
        (runLog step state inputs).2.filterMap written ++ contents (runLog step state inputs).1 := by
  induction inputs generalizing state with
  | nil => exact ⟨start, List.append_nil _⟩
  | cons input rest ih =>
      obtain ⟨next, conserved⟩ := kept state input start
      obtain ⟨last, later⟩ := ih (step state input).1 next
      refine ⟨last, ?_⟩
      rw [Conserves] at conserved
      rw [runLog, filter_map_cons, filter_map_cons, ← List.append_assoc, conserved, List.append_assoc, later, List.append_assoc]

theorem run_from_empty (inputs : List Input) (state : State) (start : inv state) (empty : contents state = []) :
    inv (runLog step state inputs).1 ∧
      (runLog step state inputs).2.filterMap accepted =
        (runLog step state inputs).2.filterMap written ++ contents (runLog step state inputs).1 := by
  have run := run_conserves step contents accepted written inv kept inputs state start
  rwa [empty, List.nil_append] at run

end Fifo

-- A place for one item, which the next one put there replaces.
namespace Slot

open Runs

variable {State Input Output Item : Type} (step : State → Input → State × Output) (slot : State → Option Item)
  (put taken : Output → Option Item)

structure Steps (state : State) (outcome : State × Output) : Prop where
  puts : ∀ item, put outcome.2 = some item → taken outcome.2 = none ∧ slot outcome.1 = some item
  takes : ∀ item, taken outcome.2 = some item → slot state = some item ∧ slot outcome.1 = none
  keeps : put outcome.2 = none → taken outcome.2 = none → slot outcome.1 = slot state

-- Nothing is taken twice or out of turn: what was taken, and what is left, were put there in this order.
theorem run_taken_sublist (inv : State → Prop)
    (kept : ∀ state input, inv state → inv (step state input).1 ∧ Steps slot put taken state (step state input))
    (inputs : List Input) (state : State) (start : inv state) :
    ((runLog step state inputs).2.filterMap taken ++ (slot (runLog step state inputs).1).toList).Sublist
      ((slot state).toList ++ (runLog step state inputs).2.filterMap put) := by
  induction inputs generalizing state with
  | nil =>
      rw [runLog, List.filterMap_nil, List.filterMap_nil, List.append_nil]
      exact List.Sublist.refl _
  | cons input rest ih =>
      obtain ⟨next, steps⟩ := kept state input start
      have later := ih (step state input).1 next
      rw [runLog, Fifo.filter_map_cons, Fifo.filter_map_cons]
      cases added : put (step state input).2 with
      | some item =>
          obtain ⟨untaken, now⟩ := steps.puts item added
          rw [now] at later
          rw [untaken]
          exact later.trans (List.sublist_append_right _ _)
      | none =>
          cases removed : taken (step state input).2 with
          | some item =>
              obtain ⟨held, empty⟩ := steps.takes item removed
              rw [empty] at later
              rw [held]
              exact later.cons_cons item
          | none =>
              rw [steps.keeps added removed] at later
              exact later

end Slot
