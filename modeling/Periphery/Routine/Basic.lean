import Mathlib.Logic.Relation
import Mathlib.Tactic.Common

/-!
# Routines that talk to a kernel

A routine is a member function seen from outside: it reads and assigns the
fields of its object, issues requests and waits for their answers, and ends
by returning a value or by raising an error.  What it assigned before it
raised stays assigned.

Nothing here fixes the requests, the kernel that answers them or the object;
all three are parameters.  The kernel is a relation, so that a request may be
refused or answered in any of several ways.
-/

/-- The requests a routine may issue, with the answers each may receive. -/
structure Interface where
  Call : Type
  Answer : Call → Type

/--
A routine over `interface`, on an object with the given fields.

`raise` leaves the routine at once.  `observe` hands the current fields to
the rest of the routine and `assign` replaces them.
-/
inductive Routine
    (interface : Interface) (Fields Error Value : Type) where
  | done (value : Value)
  | raise (error : Error)
  | observe (next : Fields → Routine interface Fields Error Value)
  | assign (fields : Fields)
      (next : Routine interface Fields Error Value)
  | call (request : interface.Call)
      (next : interface.Answer request →
        Routine interface Fields Error Value)

/-- How a routine ends. -/
inductive Outcome (Error Value : Type) where
  | returned (value : Value)
  | threw (error : Error)
deriving DecidableEq, Repr

/--
A kernel: which answers a request may receive in a state, and the state that
each answer leaves behind.
-/
abbrev Kernel (interface : Interface) (State : Type) :=
  State → (request : interface.Call) →
    interface.Answer request → State → Prop

/-- The kernel answers every request. -/
def Kernel.Total {interface : Interface} {State : Type}
    (kernel : Kernel interface State) : Prop :=
  ∀ state request, ∃ answer state',
    kernel state request answer state'

namespace Routine

variable
    {interface : Interface}
    {Fields Error Value Result State : Type}

/-! ## Sequencing -/

/-- Run a routine and hand its value on; an error skips the continuation. -/
def bind :
    Routine interface Fields Error Value →
    (Value → Routine interface Fields Error Result) →
    Routine interface Fields Error Result
  | .done value, next => next value
  | .raise error, _ => .raise error
  | .observe first, next =>
      .observe fun fields => (first fields).bind next
  | .assign fields first, next => .assign fields (first.bind next)
  | .call request first, next =>
      .call request fun answer => (first answer).bind next

instance : Monad (Routine interface Fields Error) where
  pure := done
  bind := bind

/-- The current fields of the object. -/
def self : Routine interface Fields Error Fields :=
  .observe .done

/-- Replace the fields of the object. -/
def update (fields : Fields) : Routine interface Fields Error Unit :=
  .assign fields (.done ())

/-- A computation without requests, whose error the routine raises. -/
def ofExcept :
    Except Error Value → Routine interface Fields Error Value
  | .ok value => .done value
  | .error error => .raise error

/-- The first request of a routine, if it makes any. -/
def firstCall :
    Routine interface Fields Error Value → Fields →
      Option interface.Call
  | .done _, _ => none
  | .raise _, _ => none
  | .observe next, fields => (next fields).firstCall fields
  | .assign assigned next, _ => next.firstCall assigned
  | .call request _, _ => some request

/-- The first request of a sequence is that of its first half. -/
theorem firstCall_bind
    {first : Routine interface Fields Error Value}
    {next : Value → Routine interface Fields Error Result}
    {fields : Fields} {request : interface.Call}
    (asks : first.firstCall fields = some request) :
    (first >>= next).firstCall fields = some request := by
  change (first.bind next).firstCall fields = some request
  induction first generalizing fields with
  | done value => cases asks
  | raise error => cases asks
  | observe first induction => exact induction fields asks
  | assign assigned first induction => exact induction asks
  | call request first _ => exact asks

/-! ## Execution -/

/--
A complete execution of a routine: from fields and kernel state, to an
outcome with the fields and the kernel state it leaves.
-/
def Executes (kernel : Kernel interface State) :
    Routine interface Fields Error Value → Fields → State →
      Outcome Error Value → Fields → State → Prop
  | .done value, fields, state, outcome, fields', state' =>
      outcome = .returned value ∧ fields' = fields ∧ state' = state
  | .raise error, fields, state, outcome, fields', state' =>
      outcome = .threw error ∧ fields' = fields ∧ state' = state
  | .observe next, fields, state, outcome, fields', state' =>
      (next fields).Executes kernel fields state outcome fields' state'
  | .assign assigned next, _, state, outcome, fields', state' =>
      next.Executes kernel assigned state outcome fields' state'
  | .call request next, fields, state, outcome, fields', state' =>
      ∃ answer middle,
        kernel state request answer middle ∧
          (next answer).Executes kernel
            fields middle outcome fields' state'

/--
The weakest precondition: however the kernel answers, the routine ends in an
outcome, fields and kernel state that satisfy `post`.
-/
def Ensures (kernel : Kernel interface State) :
    Routine interface Fields Error Value →
      (Outcome Error Value → Fields → State → Prop) →
      Fields → State → Prop
  | .done value, post, fields, state =>
      post (.returned value) fields state
  | .raise error, post, fields, state =>
      post (.threw error) fields state
  | .observe next, post, fields, state =>
      (next fields).Ensures kernel post fields state
  | .assign assigned next, post, _, state =>
      next.Ensures kernel post assigned state
  | .call request next, post, fields, state =>
      ∀ answer middle,
        kernel state request answer middle →
          (next answer).Ensures kernel post fields middle

/-- `Ensures` speaks about exactly the complete executions. -/
theorem ensures_iff_forall_executes
    (kernel : Kernel interface State)
    (routine : Routine interface Fields Error Value)
    (post : Outcome Error Value → Fields → State → Prop)
    (fields : Fields) (state : State) :
    routine.Ensures kernel post fields state ↔
      ∀ outcome fields' state',
        routine.Executes kernel fields state outcome fields' state' →
          post outcome fields' state' := by
  induction routine generalizing fields state with
  | done value =>
      constructor
      · rintro ensured _ _ _ ⟨rfl, rfl, rfl⟩
        exact ensured
      · intro every
        exact every _ _ _ ⟨rfl, rfl, rfl⟩
  | raise error =>
      constructor
      · rintro ensured _ _ _ ⟨rfl, rfl, rfl⟩
        exact ensured
      · intro every
        exact every _ _ _ ⟨rfl, rfl, rfl⟩
  | observe next induction => exact induction fields fields state
  | assign assigned next induction => exact induction assigned state
  | call request next induction =>
      constructor
      · rintro ensured outcome fields' state'
          ⟨answer, middle, answered, executed⟩
        exact
          (induction answer fields middle).mp
            (ensured answer middle answered)
            outcome fields' state' executed
      · intro every answer middle answered
        apply (induction answer fields middle).mpr
        intro outcome fields' state' executed
        exact every outcome fields' state'
          ⟨answer, middle, answered, executed⟩

/-- A kernel that answers every request never blocks a routine. -/
theorem exists_executes
    (kernel : Kernel interface State)
    (total : ∀ state request,
      ∃ answer state', kernel state request answer state')
    (routine : Routine interface Fields Error Value)
    (fields : Fields) (state : State) :
    ∃ outcome fields' state',
      routine.Executes kernel fields state outcome fields' state' := by
  induction routine generalizing fields state with
  | done value => exact ⟨_, _, _, rfl, rfl, rfl⟩
  | raise error => exact ⟨_, _, _, rfl, rfl, rfl⟩
  | observe next induction => exact induction fields fields state
  | assign assigned next induction => exact induction assigned state
  | call request next induction =>
      rcases total state request with ⟨answer, middle, answered⟩
      rcases induction answer fields middle with
        ⟨outcome, fields', state', executed⟩
      exact
        ⟨outcome, fields', state',
          answer, middle, answered, executed⟩

/-- Use a proved postcondition on one execution. -/
theorem Ensures.of_executes
    {kernel : Kernel interface State}
    {routine : Routine interface Fields Error Value}
    {post : Outcome Error Value → Fields → State → Prop}
    {fields fields' : Fields} {state state' : State}
    {outcome : Outcome Error Value}
    (ensured : routine.Ensures kernel post fields state)
    (executed :
      routine.Executes kernel fields state outcome fields' state') :
    post outcome fields' state' :=
  (ensures_iff_forall_executes kernel routine post fields state).mp
    ensured outcome fields' state' executed

/-! ## Rules -/

section Rules

variable
    {kernel : Kernel interface State}
    {post : Outcome Error Value → Fields → State → Prop}
    {fields : Fields} {state : State}

@[simp]
theorem ensures_pure (value : Value) :
    Ensures kernel
        (pure value : Routine interface Fields Error Value)
        post fields state ↔
      post (.returned value) fields state :=
  Iff.rfl

@[simp]
theorem ensures_done (value : Value) :
    Ensures kernel
        (done value : Routine interface Fields Error Value)
        post fields state ↔
      post (.returned value) fields state :=
  Iff.rfl

@[simp]
theorem ensures_raise (error : Error) :
    Ensures kernel
        (raise error : Routine interface Fields Error Value)
        post fields state ↔
      post (.threw error) fields state :=
  Iff.rfl

@[simp]
theorem ensures_self
    {post : Outcome Error Fields → Fields → State → Prop} :
    Ensures kernel
        (self : Routine interface Fields Error Fields)
        post fields state ↔
      post (.returned fields) fields state :=
  Iff.rfl

@[simp]
theorem ensures_update
    {post : Outcome Error Unit → Fields → State → Prop}
    (assigned : Fields) :
    Ensures kernel
        (update assigned : Routine interface Fields Error Unit)
        post fields state ↔
      post (.returned ()) assigned state :=
  Iff.rfl

@[simp]
theorem ensures_ofExcept (computed : Except Error Value) :
    Ensures kernel
        (ofExcept computed : Routine interface Fields Error Value)
        post fields state ↔
      (∀ value, computed = .ok value →
          post (.returned value) fields state) ∧
        ∀ error, computed = .error error →
          post (.threw error) fields state := by
  cases computed <;> simp [ofExcept]

@[simp]
theorem ensures_call
    (request : interface.Call)
    (next : interface.Answer request →
      Routine interface Fields Error Value) :
    Ensures kernel (call request next) post fields state ↔
      ∀ answer middle,
        kernel state request answer middle →
          (next answer).Ensures kernel post fields middle :=
  Iff.rfl

@[simp]
theorem ensures_ite
    (condition : Prop) [Decidable condition]
    (positive negative : Routine interface Fields Error Value) :
    Ensures kernel (if condition then positive else negative)
        post fields state ↔
      (condition → positive.Ensures kernel post fields state) ∧
        (¬ condition →
          negative.Ensures kernel post fields state) := by
  by_cases holds : condition <;> simp [holds]

/-- What is left to show after the first half of a sequence. -/
def afterwards (kernel : Kernel interface State)
    (next : Value → Routine interface Fields Error Result)
    (post : Outcome Error Result → Fields → State → Prop) :
    Outcome Error Value → Fields → State → Prop
  | .returned value, fields, state =>
      (next value).Ensures kernel post fields state
  | .threw error, fields, state => post (.threw error) fields state

@[simp]
theorem afterwards_returned
    {post : Outcome Error Result → Fields → State → Prop}
    (next : Value → Routine interface Fields Error Result)
    (value : Value) :
    afterwards kernel next post (.returned value) fields state ↔
      (next value).Ensures kernel post fields state :=
  Iff.rfl

@[simp]
theorem afterwards_threw
    {post : Outcome Error Result → Fields → State → Prop}
    (next : Value → Routine interface Fields Error Result)
    (error : Error) :
    afterwards kernel next post (.threw error) fields state ↔
      post (.threw error) fields state :=
  Iff.rfl

/-- Sequencing composes weakest preconditions. -/
@[simp]
theorem ensures_bind
    {post : Outcome Error Result → Fields → State → Prop}
    (first : Routine interface Fields Error Value)
    (next : Value → Routine interface Fields Error Result) :
    Ensures kernel (first >>= next) post fields state ↔
      first.Ensures kernel (afterwards kernel next post)
        fields state := by
  change Ensures kernel (first.bind next) post fields state ↔ _
  induction first generalizing fields state with
  | done value => rfl
  | raise error => rfl
  | observe first induction => exact induction fields
  | assign assigned first induction => exact induction
  | call request first induction =>
      constructor
      · intro ensured answer middle answered
        exact (induction answer).mp (ensured answer middle answered)
      · intro ensured answer middle answered
        exact (induction answer).mpr (ensured answer middle answered)

/-- Weakening of the postcondition. -/
theorem Ensures.mono
    {weaker : Outcome Error Value → Fields → State → Prop}
    {routine : Routine interface Fields Error Value}
    (ensured : routine.Ensures kernel post fields state)
    (implies : ∀ outcome fields' state',
      post outcome fields' state' →
        weaker outcome fields' state') :
    routine.Ensures kernel weaker fields state := by
  rw [ensures_iff_forall_executes] at ensured ⊢
  intro outcome fields' state' executed
  exact implies _ _ _ (ensured _ _ _ executed)

/-- The rule of sequencing, with a condition between the two halves. -/
theorem Ensures.bind
    {between : Outcome Error Value → Fields → State → Prop}
    {post : Outcome Error Result → Fields → State → Prop}
    {first : Routine interface Fields Error Value}
    {next : Value → Routine interface Fields Error Result}
    (ensured : first.Ensures kernel between fields state)
    (returned : ∀ value fields' state',
      between (.returned value) fields' state' →
        (next value).Ensures kernel post fields' state')
    (threw : ∀ error fields' state',
      between (.threw error) fields' state' →
        post (.threw error) fields' state') :
    (first >>= next).Ensures kernel post fields state := by
  rw [ensures_bind]
  apply ensured.mono
  rintro (value | error) fields' state' reached
  · exact returned value fields' state' reached
  · exact threw error fields' state' reached

end Rules

/-! ## Building executions -/

section Building

variable
    {kernel : Kernel interface State}
    {fields fields' : Fields} {state middle state' : State}
    {outcome : Outcome Error Value}

/-- An execution that starts with a request, from one of its answers. -/
theorem Executes.call
    {request : interface.Call}
    {next : interface.Answer request →
      Routine interface Fields Error Value}
    (answer : interface.Answer request)
    (answered : kernel state request answer middle)
    (rest : (next answer).Executes kernel
      fields middle outcome fields' state') :
    (Routine.call request next).Executes kernel
      fields state outcome fields' state' :=
  ⟨answer, middle, answered, rest⟩

end Building

/-! ## Routines with one execution -/

section Yields

variable
    {kernel : Kernel interface State}
    {fields fields₁ fields₂ : Fields} {state state₁ state₂ : State}

/-- An execution of a sequence runs the first half to its end. -/
theorem executes_bind_iff
    (first : Routine interface Fields Error Value)
    (next : Value → Routine interface Fields Error Result)
    (outcome : Outcome Error Result) :
    (first >>= next).Executes kernel
        fields state outcome fields₂ state₂ ↔
      (∃ value fields₁ state₁,
        first.Executes kernel
            fields state (.returned value) fields₁ state₁ ∧
          (next value).Executes kernel
            fields₁ state₁ outcome fields₂ state₂) ∨
      ∃ error, outcome = .threw error ∧
        first.Executes kernel
          fields state (.threw error) fields₂ state₂ := by
  change (first.bind next).Executes kernel _ _ _ _ _ ↔ _
  induction first generalizing fields state with
  | done value =>
      constructor
      · intro executed
        exact .inl ⟨value, fields, state, ⟨rfl, rfl, rfl⟩, executed⟩
      · rintro (⟨_, _, _, ⟨equal, rfl, rfl⟩, executed⟩ |
          ⟨_, _, impossible, _⟩)
        · cases equal
          exact executed
        · cases impossible
  | raise error =>
      constructor
      · rintro ⟨rfl, rfl, rfl⟩
        exact .inr ⟨error, rfl, rfl, rfl, rfl⟩
      · rintro (⟨_, _, _, ⟨impossible, _⟩, _⟩ |
          ⟨_, rfl, equal, rfl, rfl⟩)
        · cases impossible
        · cases equal
          exact ⟨rfl, rfl, rfl⟩
  | observe first induction => exact induction fields
  | assign assigned first induction => exact induction
  | call request first induction =>
      constructor
      · rintro ⟨answer, middle, answered, executed⟩
        rcases (induction answer).mp executed with
          ⟨value, fields₁, state₁, firstExecuted, rest⟩ |
          ⟨error, rfl, firstExecuted⟩
        · exact
            .inl
              ⟨value, fields₁, state₁,
                ⟨answer, middle, answered, firstExecuted⟩, rest⟩
        · exact
            .inr
              ⟨error, rfl, answer, middle, answered, firstExecuted⟩
      · rintro
          (⟨value, fields₁, state₁,
              ⟨answer, middle, answered, firstExecuted⟩, rest⟩ |
            ⟨error, rfl, answer, middle, answered, firstExecuted⟩)
        · exact
            ⟨answer, middle, answered,
              (induction answer).mpr
                (.inl
                  ⟨value, fields₁, state₁, firstExecuted, rest⟩)⟩
        · exact
            ⟨answer, middle, answered,
              (induction answer).mpr
                (.inr ⟨error, rfl, firstExecuted⟩)⟩

/--
The routine has exactly one execution: it returns `value` and leaves
`fields₁` and `state₁`.
-/
def Yields (kernel : Kernel interface State)
    (routine : Routine interface Fields Error Value)
    (fields : Fields) (state : State)
    (value : Value) (fields₁ : Fields) (state₁ : State) : Prop :=
  ∀ outcome fields' state',
    routine.Executes kernel fields state outcome fields' state' ↔
      outcome = .returned value ∧
        fields' = fields₁ ∧ state' = state₁

theorem Yields.pure (value : Value) :
    (Pure.pure value : Routine interface Fields Error Value).Yields
      kernel fields state value fields state :=
  fun _ _ _ => Iff.rfl

theorem Yields.self :
    (Routine.self : Routine interface Fields Error Fields).Yields
      kernel fields state fields fields state :=
  fun _ _ _ => Iff.rfl

/-- A request with a single possible answer. -/
theorem Yields.ask
    {request : interface.Call} {answer : interface.Answer request}
    (answered : ∀ answer' state',
      kernel state request answer' state' ↔
        answer' = answer ∧ state' = state₁) :
    (Routine.call request done :
        Routine interface Fields Error _).Yields
      kernel fields state answer fields state₁ := by
  intro outcome fields' state'
  constructor
  · rintro ⟨answer', middle, replied, rfl, rfl, rfl⟩
    rcases (answered _ _).mp replied with ⟨rfl, rfl⟩
    exact ⟨rfl, rfl, rfl⟩
  · rintro ⟨rfl, rfl, rfl⟩
    exact
      ⟨answer, _, (answered _ _).mpr ⟨rfl, rfl⟩,
        rfl, rfl, rfl⟩

theorem Yields.bind
    {first : Routine interface Fields Error Value}
    {next : Value → Routine interface Fields Error Result}
    {value : Value} {result : Result}
    (yields : first.Yields kernel fields state value fields₁ state₁)
    (rest : (next value).Yields kernel
      fields₁ state₁ result fields₂ state₂) :
    (first >>= next).Yields kernel
      fields state result fields₂ state₂ := by
  intro outcome fields' state'
  rw [executes_bind_iff, ← rest]
  constructor
  · rintro (⟨_, _, _, firstExecuted, executed⟩ |
      ⟨_, _, firstExecuted⟩)
    · rcases (yields _ _ _).mp firstExecuted with ⟨equal, rfl, rfl⟩
      cases equal
      exact executed
    · cases ((yields _ _ _).mp firstExecuted).1
  · intro executed
    exact
      .inl
        ⟨value, fields₁, state₁,
          (yields _ _ _).mpr ⟨rfl, rfl, rfl⟩, executed⟩

end Yields

end Routine
