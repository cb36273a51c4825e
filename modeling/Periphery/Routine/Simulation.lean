import Periphery.Routine.Progress

/-!
# Simulations between loops

Two loops run on the same kernel.  The second simulates the first if it can
follow every step of the first with the same requests and answers; it may
take more steps, and it may wait as long as some rank goes down.

A loop that simulates another brings the kernel to the same states, is left
where the other is left, and goes on for ever where the other does.
-/

namespace Routine.Loop

variable
    {interface : Interface}
    {Fields Fields' Error Error' Value Value' State : Type}

/-! ## What the kernel sees of a loop -/

/-- The kernel comes to this state while the loop runs. -/
def Visits (kernel : Kernel interface State)
    (loop : Loop interface Fields Error Value) (fields : Fields)
    (state visited : State) : Prop :=
  ∃ point, loop.Reaches kernel fields state point ∧
    point.state = visited

/-- The loop can be left with this outcome, in this state of the kernel. -/
def Leaves (kernel : Kernel interface State)
    (loop : Loop interface Fields Error Value) (fields : Fields)
    (state : State) (outcome : Outcome Error Value) (last : State) :
    Prop :=
  ∃ point, loop.Reaches kernel fields state point ∧
    point.outcome = some outcome ∧ point.state = last

/-- With a kernel that answers, a loop is left or it goes on for ever. -/
theorem leaves_or_forever
    {kernel : Kernel interface State} (total : kernel.Total)
    (loop : Loop interface Fields Error Value) (fields : Fields)
    (state : State) :
    (∃ outcome last, loop.Leaves kernel fields state outcome last) ∨
      loop.Forever kernel ⟨loop.entry, fields, state⟩ := by
  by_cases left :
      ∃ outcome last, loop.Leaves kernel fields state outcome last
  · exact .inl left
  · refine .inr ?_
    apply forever_of_invariant (loop.Reaches kernel fields state)
    · intro point reaches
      have inside : point.outcome = none := by
        cases ended : point.outcome with
        | none => rfl
        | some outcome =>
            exact
              absurd ⟨outcome, point.state, point, reaches, ended, rfl⟩
                left
      rcases exists_step total inside with ⟨next, step⟩
      exact ⟨next, step, .tail reaches step⟩
    · exact .refl

/-! ## Simulations -/

/--
The second loop follows the first from related points: step by step, waiting
only while the rank goes down, and to its ends.
-/
structure Simulates (kernel : Kernel interface State)
    (first : Loop interface Fields Error Value)
    (second : Loop interface Fields' Error' Value')
    (related : first.Point State → second.Point State → Prop)
    (agree : Outcome Error Value → Outcome Error' Value' → Prop)
    (rank : first.Point State → Nat) : Prop where
  state : ∀ point point', related point point' →
    point'.state = point.state
  step : ∀ point point' next, related point point' →
    first.Steps kernel point next →
      (∃ next', Relation.TransGen (second.Steps kernel) point' next' ∧
          related next next') ∨
        related next point' ∧ rank next < rank point
  outcome : ∀ point point' outcome, related point point' →
    point.outcome = some outcome →
      ∃ last outcome',
        Relation.ReflTransGen (second.Steps kernel) point' last ∧
          last.state = point'.state ∧ last.outcome = some outcome' ∧
          agree outcome outcome'

namespace Simulates

variable
    {kernel : Kernel interface State}
    {first : Loop interface Fields Error Value}
    {second : Loop interface Fields' Error' Value'}
    {related : first.Point State → second.Point State → Prop}
    {agree : Outcome Error Value → Outcome Error' Value' → Prop}
    {rank : first.Point State → Nat}
    {point : first.Point State} {point' : second.Point State}

/-- Runs of the first loop are followed by runs of the second. -/
theorem runs
    (simulates : Simulates kernel first second related agree rank)
    (here : related point point') {last : first.Point State}
    (steps : Relation.ReflTransGen (first.Steps kernel) point last) :
    ∃ last', Relation.ReflTransGen (second.Steps kernel) point' last' ∧
      related last last' := by
  induction steps with
  | refl => exact ⟨point', .refl, here⟩
  | @tail middle last _ step induction =>
      rcases induction with ⟨middle', steps', there⟩
      rcases simulates.step _ _ _ there step with
        ⟨last', more, there'⟩ | ⟨there', _⟩
      · exact ⟨last', steps'.trans more.to_reflTransGen, there'⟩
      · exact ⟨middle', steps', there'⟩

/-- A run for ever of the first loop goes on for ever in the second. -/
theorem forever
    (simulates : Simulates kernel first second related agree rank)
    (here : related point point') (goes : first.Forever kernel point) :
    second.Forever kernel point' := by
  apply forever_of_rounds fun point' =>
    ∃ point, related point point' ∧ first.Forever kernel point
  · rintro point' ⟨point, here, goes⟩
    -- The second loop waits for the first at most `rank` times.
    induction bound : rank point using Nat.strongRecOn
      generalizing point with
    | ind bound induction =>
        subst bound
        rcases goes with ⟨run, rfl, steps⟩
        have goes : first.Forever kernel (run 1) :=
          ⟨fun n => run (n + 1), rfl, fun n => steps (n + 1)⟩
        rcases simulates.step _ _ _ here (steps 0) with
          ⟨next', more, there⟩ | ⟨there, lower⟩
        · exact ⟨next', more, run 1, there, goes⟩
        · exact induction _ lower (run 1) there goes rfl
  · exact ⟨point, here, goes⟩

variable {fields : Fields} {fields' : Fields'} {state : State}

/-- The second loop brings the kernel to the same states. -/
theorem visits
    (simulates : Simulates kernel first second related agree rank)
    (start :
      related ⟨first.entry, fields, state⟩
        ⟨second.entry, fields', state⟩)
    {visited : State} (visits : first.Visits kernel fields state visited) :
    second.Visits kernel fields' state visited := by
  rcases visits with ⟨last, reaches, rfl⟩
  rcases simulates.runs start reaches with ⟨last', reaches', there⟩
  exact ⟨last', reaches', simulates.state _ _ there⟩

/-- The second loop is left where the first is. -/
theorem leaves
    (simulates : Simulates kernel first second related agree rank)
    (start :
      related ⟨first.entry, fields, state⟩
        ⟨second.entry, fields', state⟩)
    {outcome : Outcome Error Value} {last : State}
    (leaves : first.Leaves kernel fields state outcome last) :
    ∃ outcome', agree outcome outcome' ∧
      second.Leaves kernel fields' state outcome' last := by
  rcases leaves with ⟨point, reaches, ended, rfl⟩
  rcases simulates.runs start reaches with ⟨point', reaches', there⟩
  rcases simulates.outcome _ _ _ there ended with
    ⟨last', outcome', steps, unchanged, ended', agrees⟩
  refine ⟨outcome', agrees, last', reaches'.trans steps, ended', ?_⟩
  rw [unchanged, simulates.state _ _ there]

end Simulates

end Routine.Loop
