import Periphery.Routine.Progress

/-!
# Clients in a moving world

A client calls the member functions of one object, one after the other.  The
world around it goes on meanwhile: it moves while the client is idle, and
before and after each request that a function makes.

What a client can rely on is shown once: a condition that holds between calls,
and one that holds during each of them.
-/

/-- The world may move before a request is answered, and afterwards. -/
def Kernel.amid {interface : Interface} {State : Type}
    (kernel : Kernel interface State) (moves : State → State → Prop) :
    Kernel interface State :=
  fun state request answer state' =>
    ∃ before after,
      Relation.ReflTransGen moves state before ∧
        kernel before request answer after ∧
        Relation.ReflTransGen moves after state'

/-- Every answer of the kernel keeps the condition. -/
def Kernel.Preserves {interface : Interface} {State : Type}
    (kernel : Kernel interface State) (holds : State → Prop) : Prop :=
  ∀ state request answer state',
    holds state → kernel state request answer state' → holds state'

section Moving

variable
    {interface : Interface} {State : Type}
    {kernel : Kernel interface State} {moves : State → State → Prop}

/-- What moves and answers keep is kept in a moving world. -/
theorem Kernel.Preserves.amid
    {holds : State → Prop} (preserves : kernel.Preserves holds)
    (moved : ∀ state state', holds state → moves state state' →
      holds state') :
    (kernel.amid moves).Preserves holds := by
  have stays : ∀ {state state'}, holds state →
      Relation.ReflTransGen moves state state' → holds state' := by
    intro state state' held moving
    induction moving with
    | refl => exact held
    | tail _ step held => exact moved _ _ held step
  rintro state request answer state' held
    ⟨before, after, earlier, answered, later⟩
  exact
    stays (preserves _ _ _ _ (stays held earlier) answered) later

end Moving

namespace Routine

variable
    {interface : Interface} {Fields Error Value State : Type}

/-! ## What every answer keeps -/

section Keeping

variable
    {kernel : Kernel interface State} {during holds : State → Prop}

theorem Upholds.preserves
    (preserves : kernel.Preserves holds)
    {post : Outcome Error Value → Fields → State → Prop}
    {routine : Routine interface Fields Error Value}
    {fields : Fields} {state : State}
    (upheld : routine.Upholds kernel during post fields state)
    (held : holds state) :
    routine.Upholds kernel (fun state => during state ∧ holds state)
      (fun outcome fields state =>
        post outcome fields state ∧ holds state)
      fields state := by
  induction routine generalizing fields state with
  | done value => exact ⟨⟨upheld.1, held⟩, upheld.2, held⟩
  | raise error => exact ⟨⟨upheld.1, held⟩, upheld.2, held⟩
  | observe next induction => exact induction fields upheld held
  | assign assigned next induction => exact induction upheld held
  | call request next induction =>
      refine ⟨⟨upheld.1, held⟩, fun answer middle answered => ?_⟩
      exact
        induction answer (upheld.2 _ _ answered)
          (preserves _ _ _ _ held answered)

/-- What every answer keeps, every thread sustains. -/
theorem Loop.Sustains.preserves
    (preserves : kernel.Preserves holds)
    {loop : Loop interface Fields Error Value}
    {left : Outcome Error Value → Fields → State → Prop}
    {rest : loop.Rest} {fields : Fields} {state : State}
    (sustains : loop.Sustains kernel during left rest fields state)
    (held : holds state) :
    loop.Sustains kernel (fun state => during state ∧ holds state)
      (fun outcome fields state =>
        left outcome fields state ∧ holds state)
      rest fields state := by
  rcases sustains with ⟨head, keeps, upheld⟩
  refine
    ⟨fun cursor fields state => head cursor fields state ∧ holds state,
      ?_, ?_⟩
  · rintro cursor fields state ⟨start, held⟩
    apply (Upholds.preserves preserves (keeps _ _ _ start) held).mono
    rintro ((next | value) | error) _ _ _ reached <;> exact reached
  · apply (Upholds.preserves preserves upheld held).mono
    rintro ((next | value) | error) _ _ _ reached <;> exact reached

/-- Weakening of what a thread sustains. -/
theorem Loop.Sustains.mono
    {loop : Loop interface Fields Error Value}
    {left left' : Outcome Error Value → Fields → State → Prop}
    {rest : loop.Rest} {fields : Fields} {state : State}
    (sustains : loop.Sustains kernel during left rest fields state)
    (weaker : ∀ state, during state → holds state)
    (leaves : ∀ outcome fields state, during state →
      left outcome fields state → left' outcome fields state) :
    loop.Sustains kernel holds left' rest fields state := by
  have weaken : ∀ {routine : loop.Rest} {fields state}
      {post post' : Outcome Error (loop.Cursor ⊕ Value) → Fields →
        State → Prop},
      (∀ outcome fields state, during state →
        post outcome fields state → post' outcome fields state) →
      routine.Upholds kernel during post fields state →
        routine.Upholds kernel holds post' fields state := by
    intro routine
    induction routine with
    | done value =>
        exact fun implies upheld =>
          ⟨weaker _ upheld.1, implies _ _ _ upheld.1 upheld.2⟩
    | raise error =>
        exact fun implies upheld =>
          ⟨weaker _ upheld.1, implies _ _ _ upheld.1 upheld.2⟩
    | observe next induction =>
        exact fun implies upheld => induction _ implies upheld
    | assign assigned next induction =>
        exact fun implies upheld => induction implies upheld
    | call request next induction =>
        exact fun implies upheld =>
          ⟨weaker _ upheld.1, fun answer middle answered =>
            induction answer implies (upheld.2 answer middle answered)⟩
  rcases sustains with ⟨head, keeps, upheld⟩
  refine
    ⟨fun cursor fields state => head cursor fields state, ?_, ?_⟩
  · intro cursor fields state start
    refine weaken ?_ (keeps _ _ _ start)
    rintro ((next | value) | error) fields state now reached
    · exact reached
    · exact leaves _ _ _ now reached
    · exact leaves _ _ _ now reached
  · refine weaken ?_ upheld
    rintro ((next | value) | error) fields state now reached
    · exact reached
    · exact leaves _ _ _ now reached
    · exact leaves _ _ _ now reached

end Keeping

/-! ## Clients -/

/-- A call that ended, with the state it left. -/
structure Ended {Call : Type} (Value : Call → Type)
    (Error State : Type) where
  call : Call
  outcome : Outcome Error (Value call)
  state : State

section Clients

variable
    {Call : Type} {Value : Call → Type}
    (perform : (call : Call) →
      Loop interface Fields Error (Value call))

/-- A call in progress. -/
structure Pending where
  call : Call
  rest : (perform call).Rest

/-- What a client has done, what it is doing, and what it finds. -/
structure Situation (State : Type) where
  ended : List (Ended Value Error State)
  pending : Option (Pending perform)
  fields : Fields
  state : State

/-- Before the first call. -/
def Situation.start (fields : Fields) (state : State) :
    Situation perform State where
  ended := []
  pending := none
  fields := fields
  state := state

/--
The next thing that happens: the world moves, or a call begins, goes on by
one step or ends.  `prepares` says what the client does before a call.
-/
inductive Happens (kernel : Kernel interface State)
    (moves : State → State → Prop)
    (prepares : Call → State → State → Prop)
    (situation : Situation perform State) :
    Situation perform State → Prop where
  | moves {state' : State}
      (idle : situation.pending = none)
      (moved : moves situation.state state') :
      Happens kernel moves prepares situation
        { situation with state := state' }
  | begins {call : Call} {state' : State}
      (idle : situation.pending = none)
      (prepared : prepares call situation.state state') :
      Happens kernel moves prepares situation
        { situation with
          pending := some ⟨call, (perform call).entry⟩
          state := state' }
  | advances {call : Call} {rest rest' : (perform call).Rest}
      {fields' : Fields} {state' : State}
      (busy : situation.pending = some ⟨call, rest⟩)
      (advances :
        (perform call).Advances (kernel.amid moves)
          rest situation.fields situation.state rest' fields' state') :
      Happens kernel moves prepares situation
        { situation with
          pending := some ⟨call, rest'⟩
          fields := fields'
          state := state' }
  | ends {call : Call} {rest : (perform call).Rest}
      {outcome : Outcome Error (Value call)}
      (busy : situation.pending = some ⟨call, rest⟩)
      (left :
        Loop.Point.outcome ⟨rest, situation.fields, situation.state⟩ =
          some outcome) :
      Happens kernel moves prepares situation
        { situation with
          ended := situation.ended ++ [⟨call, outcome, situation.state⟩]
          pending := none }

/-- What a client finds at any moment. -/
def Situation.Finds
    (atRest : List (Ended Value Error State) → State → Prop)
    (during : List (Ended Value Error State) → Call → State → Prop)
    (situation : Situation perform State) : Prop :=
  match situation.pending with
  | none => atRest situation.ended situation.state
  | some pending => during situation.ended pending.call situation.state

variable {perform}

/--
What holds at the start, is kept by every move and is sustained by every call
holds throughout.
-/
theorem Situation.finds
    {kernel : Kernel interface State} {moves : State → State → Prop}
    {prepares : Call → State → State → Prop}
    {atRest : List (Ended Value Error State) → State → Prop}
    {during : List (Ended Value Error State) → Call → State → Prop}
    {fields : Fields} {state : State}
    {situation : Situation perform State}
    (run :
      Relation.ReflTransGen (Happens perform kernel moves prepares)
        (.start perform fields state) situation)
    (initially : atRest [] state)
    (moved : ∀ ended state state', atRest ended state →
      moves state state' → atRest ended state')
    (sustained : ∀ ended call fields state state',
      atRest ended state → prepares call state state' →
        (perform call).Sustains (kernel.amid moves)
          (during ended call)
          (fun outcome _ state =>
            atRest (ended ++ [⟨call, outcome, state⟩]) state)
          (perform call).entry fields state') :
    situation.Finds perform atRest during := by
  -- A call in progress will still sustain its condition.
  have sound :
      (situation.pending = none →
        atRest situation.ended situation.state) ∧
      ∀ call rest, situation.pending = some ⟨call, rest⟩ →
        (perform call).Sustains (kernel.amid moves)
          (during situation.ended call)
          (fun outcome _ state =>
            atRest (situation.ended ++ [⟨call, outcome, state⟩]) state)
          rest situation.fields situation.state := by
    induction run with
    | refl => exact ⟨fun _ => initially, by rintro _ _ ⟨⟩⟩
    | tail _ step induction =>
        rcases induction with ⟨resting, going⟩
        cases step with
        | moves idle step =>
            refine ⟨fun _ => moved _ _ _ (resting idle) step, ?_⟩
            intro call rest busy
            rw [idle] at busy
            cases busy
        | begins idle prepared =>
            refine ⟨by rintro ⟨⟩, ?_⟩
            rintro _ _ ⟨⟩
            exact sustained _ _ _ _ _ (resting idle) prepared
        | advances busy advances =>
            refine ⟨by rintro ⟨⟩, ?_⟩
            rintro _ _ ⟨⟩
            exact (going _ _ busy).advances advances
        | ends busy left =>
            refine ⟨fun _ => ?_, by rintro _ _ ⟨⟩⟩
            exact (going _ _ busy).of_outcome left
  rw [Situation.Finds]
  split
  · next idle => exact sound.1 idle
  · next pending busy => exact (sound.2 _ _ busy).now

end Clients

end Routine
