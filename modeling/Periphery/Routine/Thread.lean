import Periphery.Routine.Basic

/-!
# Loops and threads

A loop is given by its body, which runs from a cursor and ends by going round
with the next cursor or by leaving with a value.  Nothing says that a loop is
ever left.

A thread runs a loop step by step, so that its requests can be interleaved
with those of other threads.  An invariant of the loop is a condition at its
head together with a condition that holds at every moment.
-/

namespace Routine

variable {interface : Interface} {Fields Error Value Result State : Type}

/-! ## Conditions at every moment -/

/--
The weakest precondition of `Ensures`, with the demand that `during` holds
before the first request and after every answer.
-/
def Upholds (kernel : Kernel interface State) (during : State → Prop) :
    Routine interface Fields Error Value →
      (Outcome Error Value → Fields → State → Prop) →
      Fields → State → Prop
  | .done value, post, fields, state =>
      during state ∧ post (.returned value) fields state
  | .raise error, post, fields, state =>
      during state ∧ post (.threw error) fields state
  | .observe next, post, fields, state =>
      (next fields).Upholds kernel during post fields state
  | .assign assigned next, post, _, state =>
      next.Upholds kernel during post assigned state
  | .call request next, post, fields, state =>
      during state ∧
        ∀ answer middle,
          kernel state request answer middle →
            (next answer).Upholds kernel during post fields middle

section Rules

variable
    {kernel : Kernel interface State} {during : State → Prop}
    {post : Outcome Error Value → Fields → State → Prop}
    {fields : Fields} {state : State}

theorem Upholds.now
    {routine : Routine interface Fields Error Value}
    (upheld : routine.Upholds kernel during post fields state) :
    during state := by
  induction routine generalizing fields with
  | done value => exact upheld.1
  | raise error => exact upheld.1
  | observe next induction => exact induction fields upheld
  | assign assigned next induction => exact induction upheld
  | call request next induction => exact upheld.1

@[simp]
theorem upholds_pure (value : Value) :
    Upholds kernel during
        (pure value : Routine interface Fields Error Value)
        post fields state ↔
      during state ∧ post (.returned value) fields state :=
  Iff.rfl

@[simp]
theorem upholds_done (value : Value) :
    Upholds kernel during
        (done value : Routine interface Fields Error Value)
        post fields state ↔
      during state ∧ post (.returned value) fields state :=
  Iff.rfl

@[simp]
theorem upholds_raise (error : Error) :
    Upholds kernel during
        (raise error : Routine interface Fields Error Value)
        post fields state ↔
      during state ∧ post (.threw error) fields state :=
  Iff.rfl

@[simp]
theorem upholds_call
    (request : interface.Call)
    (next : interface.Answer request →
      Routine interface Fields Error Value) :
    Upholds kernel during (call request next) post fields state ↔
      during state ∧
        ∀ answer middle,
          kernel state request answer middle →
            (next answer).Upholds kernel during post fields middle :=
  Iff.rfl

@[simp]
theorem upholds_ite
    (condition : Prop) [Decidable condition]
    (positive negative : Routine interface Fields Error Value) :
    Upholds kernel during (if condition then positive else negative)
        post fields state ↔
      (condition →
          positive.Upholds kernel during post fields state) ∧
        (¬ condition →
          negative.Upholds kernel during post fields state) := by
  by_cases holds : condition <;> simp [holds]

/-- What is left to show after the first half of a sequence. -/
def thereafter (kernel : Kernel interface State)
    (during : State → Prop)
    (next : Value → Routine interface Fields Error Result)
    (post : Outcome Error Result → Fields → State → Prop) :
    Outcome Error Value → Fields → State → Prop
  | .returned value, fields, state =>
      (next value).Upholds kernel during post fields state
  | .threw error, fields, state => post (.threw error) fields state

@[simp]
theorem thereafter_returned
    {post : Outcome Error Result → Fields → State → Prop}
    (next : Value → Routine interface Fields Error Result)
    (value : Value) :
    thereafter kernel during next post (.returned value) fields state ↔
      (next value).Upholds kernel during post fields state :=
  Iff.rfl

@[simp]
theorem thereafter_threw
    {post : Outcome Error Result → Fields → State → Prop}
    (next : Value → Routine interface Fields Error Result)
    (error : Error) :
    thereafter kernel during next post (.threw error) fields state ↔
      post (.threw error) fields state :=
  Iff.rfl

/-- Sequencing composes the conditions. -/
@[simp]
theorem upholds_bind
    {post : Outcome Error Result → Fields → State → Prop}
    (first : Routine interface Fields Error Value)
    (next : Value → Routine interface Fields Error Result) :
    Upholds kernel during (first >>= next) post fields state ↔
      first.Upholds kernel during (thereafter kernel during next post)
        fields state := by
  change Upholds kernel during (first.bind next) post fields state ↔ _
  induction first generalizing fields state with
  | done value => exact ⟨fun upheld => ⟨upheld.now, upheld⟩, And.right⟩
  | raise error => rfl
  | observe first induction => exact induction fields
  | assign assigned first induction => exact induction
  | call request first induction =>
      constructor
      · rintro ⟨now, upheld⟩
        refine ⟨now, fun answer middle answered => ?_⟩
        exact (induction answer).mp (upheld answer middle answered)
      · rintro ⟨now, upheld⟩
        refine ⟨now, fun answer middle answered => ?_⟩
        exact (induction answer).mpr (upheld answer middle answered)

/-- Weakening of the postcondition. -/
theorem Upholds.mono
    {weaker : Outcome Error Value → Fields → State → Prop}
    {routine : Routine interface Fields Error Value}
    (upheld : routine.Upholds kernel during post fields state)
    (implies : ∀ outcome fields' state',
      during state' → post outcome fields' state' →
        weaker outcome fields' state') :
    routine.Upholds kernel during weaker fields state := by
  induction routine generalizing fields state with
  | done value => exact ⟨upheld.1, implies _ _ _ upheld.1 upheld.2⟩
  | raise error => exact ⟨upheld.1, implies _ _ _ upheld.1 upheld.2⟩
  | observe next induction => exact induction fields upheld
  | assign assigned next induction => exact induction upheld
  | call request next induction =>
      refine ⟨upheld.1, fun answer middle answered => ?_⟩
      exact induction answer (upheld.2 answer middle answered)

end Rules

/-! ## Loops -/

/-- A routine that repeats a body. -/
structure Loop (interface : Interface) (Fields Error Value : Type) where
  /-- The variables that the body carries from one round to the next. -/
  Cursor : Type
  start : Cursor
  body : Cursor → Routine interface Fields Error (Cursor ⊕ Value)

namespace Loop

/-- What a thread that runs the loop has still to do in this round. -/
abbrev Rest (loop : Loop interface Fields Error Value) : Type :=
  Routine interface Fields Error (loop.Cursor ⊕ Value)

/-- A routine without a loop. -/
def once (routine : Routine interface Fields Error Value) :
    Loop interface Fields Error Value where
  Cursor := Unit
  start := ()
  body _ := do
    let value ← routine
    return .inr value

/-- `while (condition) body`, with the value that follows it. -/
def whileDo {Cursor : Type} (start : Cursor)
    (condition : Cursor → Bool)
    (body : Cursor → Routine interface Fields Error Cursor)
    (value : Value) : Loop interface Fields Error Value where
  Cursor := Cursor
  start := start
  body cursor :=
    if condition cursor then do
      let next ← body cursor
      return .inl next
    else
      return .inr value

/-- The loop is left where its condition fails. -/
theorem whileDo_body_of_false
    {Cursor : Type} {start cursor : Cursor} {condition : Cursor → Bool}
    {body : Cursor → Routine interface Fields Error Cursor}
    {value : Value} (fails : condition cursor = false) :
    (whileDo start condition body value).body cursor =
      .done (.inr value) := by
  simp only [whileDo, fails]
  rfl

/-- A thread that runs the loop starts here. -/
def entry (loop : Loop interface Fields Error Value) : loop.Rest :=
  loop.body loop.start

/-- One step of a thread. -/
inductive Advances (kernel : Kernel interface State)
    (loop : Loop interface Fields Error Value) :
    loop.Rest → Fields → State → loop.Rest → Fields → State → Prop where
  | observe {next : Fields → loop.Rest} {fields : Fields}
      {state : State} :
      Advances kernel loop (.observe next) fields state
        (next fields) fields state
  | assign {next : loop.Rest} {fields assigned : Fields}
      {state : State} :
      Advances kernel loop (.assign assigned next) fields state
        next assigned state
  | call {request : interface.Call}
      {next : interface.Answer request → loop.Rest}
      {answer : interface.Answer request} {fields : Fields}
      {state state' : State}
      (answered : kernel state request answer state') :
      Advances kernel loop (.call request next) fields state
        (next answer) fields state'
  | around {cursor : loop.Cursor} {fields : Fields} {state : State} :
      Advances kernel loop (.done (.inl cursor)) fields state
        (loop.body cursor) fields state

/-- A step that issues a request and goes on as its answer says. -/
theorem Advances.of_call
    {kernel : Kernel interface State}
    {loop : Loop interface Fields Error Value}
    {rest rest' : loop.Rest} {fields : Fields} {state state' : State}
    {request : interface.Call}
    {next : interface.Answer request → loop.Rest}
    (answer : interface.Answer request)
    (asks : rest = .call request next)
    (answered : kernel state request answer state')
    (goesOn : next answer = rest') :
    loop.Advances kernel rest fields state rest' fields state' := by
  subst asks goesOn
  exact .call answered

/-- What the body has to establish: the head again, or the way out. -/
def afterRound {Cursor : Type}
    (head : Cursor → Fields → State → Prop)
    (left : Outcome Error Value → Fields → State → Prop) :
    Outcome Error (Cursor ⊕ Value) → Fields → State → Prop
  | .returned (.inl cursor), fields, state => head cursor fields state
  | .returned (.inr value), fields, state =>
      left (.returned value) fields state
  | .threw error, fields, state => left (.threw error) fields state

/-- From the head of the loop, the body upholds `during`. -/
def Keeps (kernel : Kernel interface State) (during : State → Prop)
    (loop : Loop interface Fields Error Value)
    (head : loop.Cursor → Fields → State → Prop)
    (left : Outcome Error Value → Fields → State → Prop) : Prop :=
  ∀ cursor fields state, head cursor fields state →
    (loop.body cursor).Upholds kernel during (afterRound head left)
      fields state

/--
The thread upholds `during` now and in all its later steps, and leaves the
loop with `left`.
-/
def Sustains (kernel : Kernel interface State) (during : State → Prop)
    (loop : Loop interface Fields Error Value)
    (left : Outcome Error Value → Fields → State → Prop)
    (rest : loop.Rest) (fields : Fields) (state : State) : Prop :=
  ∃ head : loop.Cursor → Fields → State → Prop,
    loop.Keeps kernel during head left ∧
      rest.Upholds kernel during (afterRound head left) fields state

section Sustaining

variable
    {kernel : Kernel interface State} {during : State → Prop}
    {loop : Loop interface Fields Error Value}
    {head : loop.Cursor → Fields → State → Prop}
    {left : Outcome Error Value → Fields → State → Prop}
    {rest rest' : loop.Rest} {fields fields' : Fields}
    {state state' : State}

/-- A thread that starts at the head of its loop. -/
theorem Keeps.sustains
    (keeps : loop.Keeps kernel during head left)
    (start : head loop.start fields state) :
    loop.Sustains kernel during left loop.entry fields state :=
  ⟨head, keeps, keeps _ _ _ start⟩

/-- A thread without a loop. -/
theorem sustains_once
    {routine : Routine interface Fields Error Value}
    (upheld : routine.Upholds kernel during left fields state) :
    (once routine).Sustains kernel during left
      (once routine).entry fields state := by
  refine
    ⟨fun _ fields state =>
        routine.Upholds kernel during left fields state,
      ?_, ?_⟩
  · intro cursor fields state upheld
    simp only [once, upholds_bind]
    apply upheld.mono
    rintro (value | error) _ _ now post
    · exact ⟨now, post⟩
    · exact post
  · simp only [entry, once, upholds_bind]
    apply upheld.mono
    rintro (value | error) _ _ now post
    · exact ⟨now, post⟩
    · exact post

theorem Sustains.now
    (sustains : loop.Sustains kernel during left rest fields state) :
    during state := by
  rcases sustains with ⟨_, _, upheld⟩
  exact upheld.now

/-- What a thread sustains, it sustains in its next step. -/
theorem Sustains.advances
    (sustains : loop.Sustains kernel during left rest fields state)
    (advances :
      loop.Advances kernel rest fields state rest' fields' state') :
    loop.Sustains kernel during left rest' fields' state' := by
  rcases sustains with ⟨head, keeps, upheld⟩
  refine ⟨head, keeps, ?_⟩
  cases advances with
  | observe => exact upheld
  | assign => exact upheld
  | call answered => exact upheld.2 _ _ answered
  | around => exact keeps _ _ _ upheld.2

theorem Sustains.leaves
    {value : Value}
    (sustains :
      loop.Sustains kernel during left (.done (.inr value))
        fields state) :
    left (.returned value) fields state := by
  rcases sustains with ⟨_, _, _, done⟩
  exact done

end Sustaining

end Loop

end Routine
