import Mathlib.Logic.Basic

set_option autoImplicit false

-- While loops, by what one round does to the state.
namespace Loops

variable {State : Type} (cond : State → Prop) (body : State → State)

inductive Ends : State → State → Prop where
  | done (state : State) (out : ¬cond state) : Ends state state
  | again (state final : State) (into : cond state) (rest : Ends (body state) final) : Ends state final

variable {cond body}

theorem Ends.exit {start final : State} (ends : Ends cond body start final) : ¬cond final := by
  induction ends with
  | done state out => exact out
  | again state final into rest ih => exact ih

theorem Ends.invariant {start final : State} (ends : Ends cond body start final) (inv : State → Prop)
    (kept : ∀ state, cond state → inv state → inv (body state)) (holds : inv start) : inv final := by
  induction ends with
  | done state out => exact holds
  | again state final into rest ih => exact ih (kept state into holds)

-- Every round makes variant smaller, so the loop ends.
def whileLoop (cond : State → Prop) [DecidablePred cond] (body : State → State) (variant : State → Nat)
    (falls : ∀ state, cond state → variant (body state) < variant state) (start : State) : State :=
  if _into : cond start then whileLoop cond body variant falls (body start) else start
termination_by variant start
decreasing_by exact falls start _into

theorem while_loop_ends (cond : State → Prop) [DecidablePred cond] (body : State → State) (variant : State → Nat)
    (falls : ∀ state, cond state → variant (body state) < variant state) (start : State) :
    Ends cond body start (whileLoop cond body variant falls start) := by
  rw [whileLoop]
  split
  · rename_i into
    exact Ends.again start _ into (while_loop_ends cond body variant falls (body start))
  · rename_i out
    exact Ends.done start out
termination_by variant start
decreasing_by exact falls start ‹_›

end Loops
