import Mathlib.Logic.Relation
import Periphery.Routine.Thread

/-!
# Runs and ends of a thread

A thread stands at a point: what it has still to do in this round, and the
fields and the kernel state it finds.  A run leads from point to point.

A thread ends if none of its runs goes on for ever.  The rule for loops asks
for a measure that every round decreases; the rule against them asks for an
invariant that always leaves one more step to take.
-/

namespace Routine

variable {interface : Interface} {Fields Error Value State : Type}

/-- A condition at every moment can be left out. -/
theorem Upholds.ensures
    {kernel : Kernel interface State} {during : State → Prop}
    {post : Outcome Error Value → Fields → State → Prop}
    {routine : Routine interface Fields Error Value}
    {fields : Fields} {state : State}
    (upheld : routine.Upholds kernel during post fields state) :
    routine.Ensures kernel post fields state := by
  induction routine generalizing fields state with
  | done value => exact upheld.2
  | raise error => exact upheld.2
  | observe next induction => exact induction fields upheld
  | assign assigned next induction => exact induction upheld
  | call request next induction =>
      intro answer middle answered
      exact induction answer (upheld.2 answer middle answered)

namespace Loop

/-! ## Runs -/

/-- Where a thread stands. -/
structure Point (loop : Loop interface Fields Error Value)
    (State : Type) where
  rest : loop.Rest
  fields : Fields
  state : State

/-- How the thread has left the loop, if it has. -/
def Point.outcome {loop : Loop interface Fields Error Value}
    (point : loop.Point State) : Option (Outcome Error Value) :=
  match point.rest with
  | .done (.inr value) => some (.returned value)
  | .raise error => some (.threw error)
  | _ => none

/-- The thread goes from one point to the next. -/
def Steps (kernel : Kernel interface State)
    (loop : Loop interface Fields Error Value)
    (point next : loop.Point State) : Prop :=
  loop.Advances kernel point.rest point.fields point.state
    next.rest next.fields next.state

theorem Advances.steps
    {kernel : Kernel interface State}
    {loop : Loop interface Fields Error Value}
    {rest rest' : loop.Rest} {fields fields' : Fields}
    {state state' : State}
    (advances :
      loop.Advances kernel rest fields state rest' fields' state') :
    loop.Steps kernel ⟨rest, fields, state⟩ ⟨rest', fields', state'⟩ :=
  advances

/-- From the end of a round there is one step, to the next round. -/
theorem Steps.goes_around
    {kernel : Kernel interface State}
    {loop : Loop interface Fields Error Value} {cursor : loop.Cursor}
    {fields : Fields} {state : State} {next : loop.Point State}
    (step :
      loop.Steps kernel ⟨.done (.inl cursor), fields, state⟩ next) :
    next = ⟨loop.body cursor, fields, state⟩ := by
  rcases next with ⟨rest, fields', state'⟩
  cases step
  rfl

/-- A thread that starts the loop comes to this point. -/
def Reaches (kernel : Kernel interface State)
    (loop : Loop interface Fields Error Value) (fields : Fields)
    (state : State) : loop.Point State → Prop :=
  Relation.ReflTransGen (loop.Steps kernel) ⟨loop.entry, fields, state⟩

section Reaching

variable
    {kernel : Kernel interface State} {during : State → Prop}
    {loop : Loop interface Fields Error Value}
    {left : Outcome Error Value → Fields → State → Prop}
    {fields : Fields} {state : State} {point : loop.Point State}

theorem Reaches.start : loop.Reaches kernel fields state
    ⟨loop.entry, fields, state⟩ :=
  .refl

theorem Reaches.advances
    {rest : loop.Rest} {fields' : Fields} {state' : State}
    (reaches : loop.Reaches kernel fields state point)
    (advances :
      loop.Advances kernel point.rest point.fields point.state
        rest fields' state') :
    loop.Reaches kernel fields state ⟨rest, fields', state'⟩ :=
  Relation.ReflTransGen.tail reaches advances

/-- What a thread sustains, it sustains throughout its runs. -/
theorem Sustains.reaches
    (sustains :
      loop.Sustains kernel during left loop.entry fields state)
    (reaches : loop.Reaches kernel fields state point) :
    loop.Sustains kernel during left point.rest point.fields
      point.state := by
  induction reaches with
  | refl => exact sustains
  | tail _ advances induction => exact induction.advances advances

theorem Sustains.of_outcome
    {outcome : Outcome Error Value}
    (sustains :
      loop.Sustains kernel during left point.rest point.fields
        point.state)
    (ended : point.outcome = some outcome) :
    left outcome point.fields point.state := by
  rcases point with ⟨(_ | _) | _ | _ | _ | _, fields, state⟩ <;>
    cases ended
  · exact sustains.leaves
  · rcases sustains with ⟨_, _, _, threw⟩
    exact threw

/-- What a thread sustains holds at every point, and at its ends. -/
theorem Sustains.throughout
    (sustains :
      loop.Sustains kernel during left loop.entry fields state)
    (reaches : loop.Reaches kernel fields state point) :
    during point.state ∧
      ∀ outcome, point.outcome = some outcome →
        left outcome point.fields point.state :=
  have here := sustains.reaches reaches
  ⟨here.now, fun _ ended => here.of_outcome ended⟩

end Reaching

/-! ## Ends -/

/--
However the kernel answers, the thread comes to the end of the loop after
finitely many steps, and leaves it with `left`.  On the way it is never left
without an answer.
-/
inductive Ends (kernel : Kernel interface State)
    (loop : Loop interface Fields Error Value)
    (left : Outcome Error Value → Fields → State → Prop) :
    loop.Point State → Prop where
  | intro {point : loop.Point State}
      (now : ∀ outcome, point.outcome = some outcome →
        left outcome point.fields point.state)
      (goesOn : point.outcome = none →
        ∃ next, loop.Steps kernel point next)
      (later : ∀ next, loop.Steps kernel point next →
        Ends kernel loop left next) :
      Ends kernel loop left point

/-- Some run of the thread goes on for ever. -/
def Forever (kernel : Kernel interface State)
    (loop : Loop interface Fields Error Value)
    (point : loop.Point State) : Prop :=
  ∃ run : Nat → loop.Point State,
    run 0 = point ∧ ∀ n, loop.Steps kernel (run n) (run (n + 1))

section Ending

variable
    {kernel : Kernel interface State}
    {loop : Loop interface Fields Error Value}
    {left : Outcome Error Value → Fields → State → Prop}
    {point : loop.Point State}

theorem Ends.not_forever (ends : loop.Ends kernel left point) :
    ¬ loop.Forever kernel point := by
  induction ends with
  | intro _ _ _ induction =>
      rintro ⟨run, rfl, steps⟩
      exact
        induction (run 1) (steps 0)
          ⟨fun n => run (n + 1), rfl, fun n => steps (n + 1)⟩

/-- What holds at the ends of a thread holds there together. -/
theorem Ends.and
    {left' : Outcome Error Value → Fields → State → Prop}
    (ends : loop.Ends kernel left point)
    (ends' : loop.Ends kernel left' point) :
    loop.Ends kernel
      (fun outcome fields state =>
        left outcome fields state ∧ left' outcome fields state)
      point := by
  induction ends with
  | intro now goesOn _ induction =>
      cases ends' with
      | intro now' _ later' =>
          constructor
          · exact fun outcome ended =>
              ⟨now outcome ended, now' outcome ended⟩
          · exact goesOn
          · exact fun next step => induction next step (later' next step)

/-- A thread that ends has a run to its end. -/
theorem Ends.run (ends : loop.Ends kernel left point) :
    ∃ last outcome,
      Relation.ReflTransGen (loop.Steps kernel) point last ∧
        last.outcome = some outcome ∧
        left outcome last.fields last.state := by
  induction ends with
  | @intro point now goesOn _ induction =>
      cases ended : point.outcome with
      | some outcome =>
          exact ⟨point, outcome, .refl, ended, now outcome ended⟩
      | none =>
          rcases goesOn ended with ⟨next, step⟩
          rcases induction next step with
            ⟨last, outcome, steps, ended, holds⟩
          exact ⟨last, outcome, .head step steps, ended, holds⟩

/-- A thread that ends comes to an end with all that it sustains. -/
theorem Ends.run_sustaining
    {during : State → Prop}
    {left' : Outcome Error Value → Fields → State → Prop}
    {fields : Fields} {state : State}
    (ends : loop.Ends kernel left ⟨loop.entry, fields, state⟩)
    (sustains :
      loop.Sustains kernel during left' loop.entry fields state) :
    ∃ outcome fields' state',
      left outcome fields' state' ∧ left' outcome fields' state' := by
  rcases ends.run with ⟨last, outcome, reaches, ended, holds⟩
  exact
    ⟨outcome, last.fields, last.state, holds,
      (sustains.reaches reaches).of_outcome ended⟩

/-- An invariant that always leaves one more step to take. -/
theorem forever_of_invariant
    (invariant : loop.Point State → Prop)
    (going : ∀ point, invariant point →
      ∃ next, loop.Steps kernel point next ∧ invariant next)
    (now : invariant point) :
    loop.Forever kernel point := by
  choose next steps keeps using going
  let run : Nat → { point // invariant point } := fun n =>
    Nat.rec ⟨point, now⟩
      (fun _ here => ⟨next here.1 here.2, keeps here.1 here.2⟩) n
  exact
    ⟨fun n => (run n).1, rfl, fun n => steps (run n).1 (run n).2⟩

/-- An invariant that comes round again after some steps. -/
theorem forever_of_rounds
    (invariant : loop.Point State → Prop)
    (round : ∀ point, invariant point →
      ∃ next, Relation.TransGen (loop.Steps kernel) point next ∧
        invariant next)
    (now : invariant point) :
    loop.Forever kernel point := by
  apply forever_of_invariant fun point =>
    ∃ next, Relation.ReflTransGen (loop.Steps kernel) point next ∧
      invariant next
  · rintro point ⟨here, reaches, holds⟩
    rcases round here holds with ⟨next, steps, holds'⟩
    rcases Relation.TransGen.head'_iff.mp
        (Relation.TransGen.trans_right reaches steps) with
      ⟨first, step, rest⟩
    exact ⟨first, step, next, rest, holds'⟩
  · exact ⟨point, .refl, now⟩

/-- A kernel that answers every request lets a thread go on to its end. -/
theorem exists_step
    (total : kernel.Total) (inside : point.outcome = none) :
    ∃ next, loop.Steps kernel point next := by
  rcases point with ⟨rest, fields, state⟩
  cases rest with
  | done value =>
      rcases value with cursor | value
      · exact ⟨⟨loop.body cursor, fields, state⟩, .around⟩
      · cases inside
  | raise error => cases inside
  | observe next => exact ⟨⟨next fields, fields, state⟩, .observe⟩
  | assign assigned next => exact ⟨⟨next, assigned, state⟩, .assign⟩
  | call request next =>
      rcases total state request with ⟨answer, state', answered⟩
      exact ⟨⟨next answer, fields, state'⟩, .call answered⟩

/--
A thread that the kernel does not leave without an answer ends if it ends
from wherever this round takes it.
-/
theorem Ends.of_ensures
    (total : kernel.Total)
    {rest : loop.Rest} {fields : Fields} {state : State}
    (ensured :
      rest.Ensures kernel
        (afterRound
          (fun cursor fields state =>
            loop.Ends kernel left ⟨loop.body cursor, fields, state⟩)
          left)
        fields state) :
    loop.Ends kernel left ⟨rest, fields, state⟩ := by
  induction rest generalizing fields state with
  | done value =>
      refine .intro ?_ (exists_step total) ?_
      · rintro outcome ended
        cases value <;> cases ended
        exact ensured
      · rintro ⟨rest, fields, state⟩ advances
        cases advances
        exact ensured
  | raise error =>
      refine .intro ?_ (exists_step total) ?_
      · rintro outcome ⟨⟩
        exact ensured
      · rintro ⟨rest, fields, state⟩ advances
        cases advances
  | observe next induction =>
      refine .intro ?_ (exists_step total) ?_
      · rintro outcome ⟨⟩
      · rintro ⟨rest, fields, state⟩ advances
        cases advances
        exact induction _ ensured
  | assign assigned next induction =>
      refine .intro ?_ (exists_step total) ?_
      · rintro outcome ⟨⟩
      · rintro ⟨rest, fields, state⟩ advances
        cases advances
        exact induction ensured
  | call request next induction =>
      refine .intro ?_ (exists_step total) ?_
      · rintro outcome ⟨⟩
      · rintro ⟨rest, fields, state⟩ advances
        cases advances with
        | call answered => exact induction _ (ensured _ _ answered)

/-- A loop ends if every round decreases a measure. -/
theorem ends_of_measure
    (total : kernel.Total)
    (head : loop.Cursor → Fields → State → Prop)
    (measure : loop.Cursor → State → Nat)
    (decreases : ∀ cursor fields state, head cursor fields state →
      (loop.body cursor).Upholds kernel (fun _ => True)
        (afterRound
          (fun next fields' state' =>
            head next fields' state' ∧
              measure next state' < measure cursor state)
          left)
        fields state)
    {cursor : loop.Cursor} {fields : Fields} {state : State}
    (start : head cursor fields state) :
    loop.Ends kernel left ⟨loop.body cursor, fields, state⟩ := by
  induction bound : measure cursor state using Nat.strongRecOn
    generalizing cursor fields state with
  | ind bound induction =>
      subst bound
      apply Ends.of_ensures total
      apply (decreases cursor fields state start).ensures.mono
      rintro ((next | value) | error) fields' state' reached
      · exact induction _ reached.2 reached.1 rfl
      · exact reached
      · exact reached

end Ending

end Loop

end Routine
