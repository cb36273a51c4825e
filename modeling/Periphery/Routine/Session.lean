import Periphery.Routine.Basic

/-!
# Sessions on one object

A session is a sequence of member function calls on one object.  A caller
that catches an error may go on calling, so the history of a session records
how each call ended and the next call starts from whatever the last one left.
-/

namespace Routine

variable
    {interface : Interface}
    {Fields Error Value Call State : Type}

/--
From the first fields and kernel state, calls with the given history lead to
the last fields and kernel state.  The latest call stands last.
-/
inductive Session (kernel : Kernel interface State)
    (method : Call → Routine interface Fields Error Value)
    (fields₀ : Fields) (state₀ : State) :
    List (Call × Outcome Error Value) → Fields → State → Prop where
  | start : Session kernel method fields₀ state₀ [] fields₀ state₀
  | call {history : List (Call × Outcome Error Value)}
      {fields fields' : Fields} {state state' : State}
      {call : Call} {outcome : Outcome Error Value}
      (session : Session kernel method fields₀ state₀
        history fields state)
      (executed : (method call).Executes kernel
        fields state outcome fields' state') :
      Session kernel method fields₀ state₀
        (history ++ [(call, outcome)]) fields' state'

/-- What holds at the start and is kept by every call holds throughout. -/
theorem Session.invariant
    {kernel : Kernel interface State}
    {method : Call → Routine interface Fields Error Value}
    {fields₀ fields : Fields} {state₀ state : State}
    {history : List (Call × Outcome Error Value)}
    {motive : List (Call × Outcome Error Value) →
      Fields → State → Prop}
    (session :
      Session kernel method fields₀ state₀ history fields state)
    (initially : motive [] fields₀ state₀)
    (kept : ∀ history fields state call,
      motive history fields state →
        (method call).Ensures kernel
          (fun outcome => motive (history ++ [(call, outcome)]))
          fields state) :
    motive history fields state := by
  induction session with
  | start => exact initially
  | call session executed induction =>
      exact (kept _ _ _ _ induction).of_executes executed

end Routine
