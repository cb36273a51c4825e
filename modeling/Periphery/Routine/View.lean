import Periphery.Routine.Parallel
import Periphery.Routine.Script

/-!
# Routines on a part of the state

The state behind a kernel may hold more than a routine deals with.  As long as
the requests of the routine act on a view of the state as another kernel does,
and leave the rest alone, what was shown over that kernel is true of the view,
and the rest stays as it is at every moment.
-/

/-- In a world that does not move, the kernel answers as it does by itself. -/
theorem Kernel.amid_still
    {interface : Interface} {State : Type}
    {kernel : Kernel interface State} {state state' : State}
    {request : interface.Call} {answer : interface.Answer request} :
    kernel.amid (fun _ _ => False) state request answer state' ↔
      kernel state request answer state' := by
  have still : ∀ {first last : State},
      Relation.ReflTransGen (fun _ _ => False) first last →
        last = first := by
    intro first last moves
    rcases moves.cases_tail with same | ⟨_, _, impossible⟩
    · exact same
    · exact impossible.elim
  constructor
  · rintro ⟨before, after, earlier, answered, later⟩
    obtain rfl := still earlier
    obtain rfl := still later
    exact answered
  · exact fun answered => ⟨state, state', .refl, answered, .refl⟩

namespace Routine

variable
    {interface : Interface}
    {Fields Error Value State Shown Kept : Type}

section Viewing

variable
    {allowed : interface.Call → Prop} {after : Fields → Prop}
    {kernel : Kernel interface State} {shown : Kernel interface Shown}
    {view : State → Shown} {rest : State → Kept}

/-- What is ensured over a view holds of it, and the rest stays. -/
theorem Asks.upholds_view
    (acts : ∀ state request answer state', allowed request →
      kernel state request answer state' →
        shown (view state) request answer (view state') ∧
          rest state' = rest state)
    {post : Outcome Error Value → Fields → Shown → Prop}
    {routine : Routine interface Fields Error Value}
    {fields : Fields} {state : State} {kept : Kept}
    (asks : routine.Asks allowed after fields)
    (ensured : routine.Ensures shown post fields (view state))
    (same : rest state = kept) :
    routine.Upholds kernel (fun state => rest state = kept)
      (fun outcome fields state =>
        post outcome fields (view state) ∧ rest state = kept)
      fields state := by
  induction routine generalizing fields state with
  | done value => exact ⟨same, ensured, same⟩
  | raise error => exact ⟨same, ensured, same⟩
  | observe next induction => exact induction fields asks ensured same
  | assign assigned next induction => exact induction asks ensured same
  | call request next induction =>
      refine ⟨same, fun answer middle answered => ?_⟩
      rcases acts _ _ _ _ asks.1 answered with ⟨seen, kept⟩
      exact
        induction answer (asks.2 answer) (ensured _ _ seen)
          (kept.trans same)

end Viewing

end Routine
