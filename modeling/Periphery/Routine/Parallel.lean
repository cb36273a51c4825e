import Mathlib.Logic.Function.Basic
import Periphery.Routine.Basic

/-!
# Threads that share a kernel

Every thread runs one routine on its own object; the state behind the kernel
is shared.  A scheduler picks, again and again, the thread that takes the
next step, and nothing is said about how it picks.

Two rules follow.  Threads whose requests leave alone what the other threads
look at run as if each were alone.  A condition that every request of every
thread keeps holds throughout.
-/

namespace Routine

variable {interface : Interface} {Fields Error Value State : Type}

/-! ## Steps of a routine -/

/-- A routine in the middle of its run, with its object and the kernel. -/
structure Moment (interface : Interface)
    (Fields Error Value State : Type) where
  rest : Routine interface Fields Error Value
  fields : Fields
  state : State

/-- One step of a routine. -/
inductive Steps (kernel : Kernel interface State) :
    Moment interface Fields Error Value State →
      Moment interface Fields Error Value State → Prop where
  | observe {next : Fields → Routine interface Fields Error Value}
      {fields : Fields} {state : State} :
      Steps kernel ⟨.observe next, fields, state⟩
        ⟨next fields, fields, state⟩
  | assign {next : Routine interface Fields Error Value}
      {fields assigned : Fields} {state : State} :
      Steps kernel ⟨.assign assigned next, fields, state⟩
        ⟨next, assigned, state⟩
  | call {request : interface.Call}
      {next : interface.Answer request →
        Routine interface Fields Error Value}
      {fields : Fields} {state state' : State}
      (answer : interface.Answer request)
      (answered : kernel state request answer state') :
      Steps kernel ⟨.call request next, fields, state⟩
        ⟨next answer, fields, state'⟩

/-- A request, with the rest of the routine after its answer. -/
theorem Steps.ask
    {kernel : Kernel interface State} {request : interface.Call}
    {next : interface.Answer request →
      Routine interface Fields Error Value}
    {rest : Routine interface Fields Error Value}
    {fields : Fields} {state state' : State}
    (answer : interface.Answer request)
    (answered : kernel state request answer state')
    (after : next answer = rest) :
    Steps kernel ⟨.call request next, fields, state⟩
      ⟨rest, fields, state'⟩ := by
  rw [← after]
  exact .call answer answered

/-- How a routine without further steps ended. -/
def ended : Routine interface Fields Error Value →
    Option (Outcome Error Value)
  | .done value => some (.returned value)
  | .raise error => some (.threw error)
  | .observe _ => none
  | .assign _ _ => none
  | .call _ _ => none

/-- Where a routine that ended stands. -/
theorem executes_of_ended
    {kernel : Kernel interface State}
    {routine : Routine interface Fields Error Value}
    {outcome : Outcome Error Value} {fields : Fields} {state : State}
    (finished : routine.ended = some outcome) :
    routine.Executes kernel fields state outcome fields state := by
  cases routine with
  | done value =>
      cases finished
      exact ⟨rfl, rfl, rfl⟩
  | raise error =>
      cases finished
      exact ⟨rfl, rfl, rfl⟩
  | observe next => cases finished
  | assign assigned next => cases finished
  | call request next => cases finished

/-- Steps up to an end are an execution. -/
theorem executes_of_steps
    {kernel : Kernel interface State}
    {first last : Moment interface Fields Error Value State}
    {outcome : Outcome Error Value}
    (run : Relation.ReflTransGen (Steps kernel) first last)
    (finished : last.rest.ended = some outcome) :
    first.rest.Executes kernel first.fields first.state
      outcome last.fields last.state := by
  induction run using Relation.ReflTransGen.head_induction_on with
  | refl => exact executes_of_ended finished
  | head step _ induction =>
      cases step with
      | observe => exact induction
      | assign => exact induction
      | call answer answered => exact ⟨_, _, answered, induction⟩

/-! ## What a routine may ask -/

/--
However its requests are answered, a routine that starts with these fields
asks only what is `allowed`, and returns with fields that satisfy `after`.
-/
def Asks (allowed : interface.Call → Prop) (after : Fields → Prop) :
    Routine interface Fields Error Value → Fields → Prop
  | .done _, fields => after fields
  | .raise _, _ => True
  | .observe next, fields => (next fields).Asks allowed after fields
  | .assign assigned next, _ => next.Asks allowed after assigned
  | .call request next, fields =>
      allowed request ∧
        ∀ answer, (next answer).Asks allowed after fields

section Asking

variable
    {allowed : interface.Call → Prop} {after : Fields → Prop}
    {fields : Fields}

/-- The rule of sequencing, with a condition between the two halves. -/
theorem Asks.bind {Result : Type} {between : Fields → Prop}
    {first : Routine interface Fields Error Value}
    {next : Value → Routine interface Fields Error Result}
    (asks : first.Asks allowed between fields)
    (others : ∀ value fields, between fields →
      (next value).Asks allowed after fields) :
    (first >>= next).Asks allowed after fields := by
  change (first.bind next).Asks allowed after fields
  induction first generalizing fields with
  | done value => exact others value fields asks
  | raise error => trivial
  | observe first induction => exact induction fields asks
  | assign assigned first induction => exact induction asks
  | call request first induction =>
      exact ⟨asks.1, fun answer => induction answer (asks.2 answer)⟩

theorem Asks.mono {after' : Fields → Prop}
    {routine : Routine interface Fields Error Value}
    (asks : routine.Asks allowed after fields)
    (weaker : ∀ fields, after fields → after' fields) :
    routine.Asks allowed after' fields := by
  induction routine generalizing fields with
  | done value => exact weaker _ asks
  | raise error => trivial
  | observe next induction => exact induction fields asks
  | assign assigned next induction => exact induction asks
  | call request next induction =>
      exact ⟨asks.1, fun answer => induction answer (asks.2 answer)⟩

/-- What a routine may ask, it may ask after its next step. -/
theorem Asks.steps
    {kernel : Kernel interface State}
    {moment moment' : Moment interface Fields Error Value State}
    (asks : moment.rest.Asks allowed after moment.fields)
    (step : Steps kernel moment moment') :
    moment'.rest.Asks allowed after moment'.fields := by
  cases step with
  | observe => exact asks
  | assign => exact asks
  | call answer answered => exact asks.2 _

/-- A step leaves the shared state, or answers an allowed request. -/
theorem Steps.state
    {kernel : Kernel interface State}
    {moment moment' : Moment interface Fields Error Value State}
    (step : Steps kernel moment moment')
    (asks : moment.rest.Asks allowed after moment.fields) :
    moment'.state = moment.state ∨
      ∃ request answer, allowed request ∧
        kernel moment.state request answer moment'.state := by
  cases step with
  | observe => exact .inl rfl
  | assign => exact .inl rfl
  | call answer answered => exact .inr ⟨_, _, asks.1, answered⟩

/-- A step through a view that the allowed requests respect. -/
theorem Steps.through
    {kernel : Kernel interface State}
    {moment moment' : Moment interface Fields Error Value State}
    (step : Steps kernel moment moment') (view : State → State)
    (acts : ∀ state request answer state',
      allowed request → kernel state request answer state' →
        kernel (view state) request answer (view state'))
    (asks : moment.rest.Asks allowed after moment.fields) :
    Steps kernel ⟨moment.rest, moment.fields, view moment.state⟩
      ⟨moment'.rest, moment'.fields, view moment'.state⟩ := by
  cases step with
  | observe => exact .observe
  | assign => exact .assign
  | call answer answered => exact .call answer (acts _ _ _ _ asks.1 answered)

/-- A routine goes on if the kernel answers whatever it may ask. -/
theorem Asks.exists_steps
    {kernel : Kernel interface State}
    {moment : Moment interface Fields Error Value State}
    (asks : moment.rest.Asks allowed after moment.fields)
    (answers : ∀ state request, allowed request →
      ∃ answer state', kernel state request answer state')
    (unfinished : moment.rest.ended = none) :
    ∃ moment', Steps kernel moment moment' := by
  rcases moment with ⟨rest, fields, state⟩
  cases rest with
  | done value => cases unfinished
  | raise error => cases unfinished
  | observe next => exact ⟨_, .observe⟩
  | assign assigned next => exact ⟨_, .assign⟩
  | call request next =>
      rcases answers state request asks.1 with
        ⟨answer, state', answered⟩
      exact ⟨_, .call answer answered⟩

end Asking

/-! ## Pools of threads -/

/-- What every thread has still to do, and the state they share. -/
structure Pool (Thread : Type) (interface : Interface)
    (Fields Error Value State : Type) where
  rest : Thread → Routine interface Fields Error Value
  fields : Thread → Fields
  state : State

namespace Pool

variable {Thread : Type}

/-- A thread as it stands, with the shared state. -/
def moment (pool : Pool Thread interface Fields Error Value State)
    (thread : Thread) : Moment interface Fields Error Value State :=
  ⟨pool.rest thread, pool.fields thread, pool.state⟩

/-- The pool after a thread has come to a moment. -/
def moveTo [DecidableEq Thread]
    (pool : Pool Thread interface Fields Error Value State)
    (thread : Thread)
    (moment : Moment interface Fields Error Value State) :
    Pool Thread interface Fields Error Value State where
  rest := Function.update pool.rest thread moment.rest
  fields := Function.update pool.fields thread moment.fields
  state := moment.state

/-- Some thread takes a step; each has a kernel of its own. -/
inductive Step [DecidableEq Thread]
    (kernel : Thread → Kernel interface State)
    (pool : Pool Thread interface Fields Error Value State) :
    Pool Thread interface Fields Error Value State → Prop where
  | thread (thread : Thread)
      {moment : Moment interface Fields Error Value State}
      (step : Steps (kernel thread) (pool.moment thread) moment) :
      Step kernel pool (pool.moveTo thread moment)

/-- Every interleaving, up to any moment. -/
abbrev Runs [DecidableEq Thread]
    (kernel : Thread → Kernel interface State) :
    Pool Thread interface Fields Error Value State →
      Pool Thread interface Fields Error Value State → Prop :=
  Relation.ReflTransGen (Step kernel)

/-- A thread may run for a while on its own. -/
theorem runs_moveTo [DecidableEq Thread]
    {kernel : Thread → Kernel interface State}
    (pool : Pool Thread interface Fields Error Value State)
    (thread : Thread)
    {moment : Moment interface Fields Error Value State}
    (run :
      Relation.ReflTransGen (Steps (kernel thread))
        (pool.moment thread) moment) :
    Runs kernel pool (pool.moveTo thread moment) := by
  induction run with
  | refl =>
      have still : pool.moveTo thread (pool.moment thread) = pool := by
        simp [moveTo, Pool.moment]
      rw [still]
  | @tail middle last _ step induction =>
      have again :
          (pool.moveTo thread middle).moveTo thread last =
            pool.moveTo thread last := by
        simp [moveTo]
      have next :
          Steps (kernel thread)
            ((pool.moveTo thread middle).moment thread) last := by
        simpa [moveTo, Pool.moment] using step
      rw [← again]
      exact induction.tail (.thread thread next)

section Moves

variable
    [DecidableEq Thread]
    {pool : Pool Thread interface Fields Error Value State}
    {thread other : Thread}
    {moment : Moment interface Fields Error Value State}

@[simp]
theorem rest_moveTo_of_ne (different : other ≠ thread) :
    (pool.moveTo thread moment).rest other = pool.rest other := by
  simp [moveTo, different]

@[simp]
theorem fields_moveTo_of_ne (different : other ≠ thread) :
    (pool.moveTo thread moment).fields other = pool.fields other := by
  simp [moveTo, different]

end Moves

/-! ## Threads that leave each other alone -/

/--
Every thread looks at the shared state through a view of its own.  Its
requests act on its view as on the state itself, and change no other view.
-/
structure Apart (kernel : Thread → Kernel interface State)
    (allowed : Thread → interface.Call → Prop)
    (view : Thread → State → State) : Prop where
  acts : ∀ thread state request answer state',
    allowed thread request → kernel thread state request answer state' →
      kernel thread (view thread state) request answer
        (view thread state')
  leaves : ∀ thread other state request answer state',
    other ≠ thread → allowed thread request →
      kernel thread state request answer state' →
        view other state' = view other state

section Separation

variable
    [DecidableEq Thread]
    {kernel : Thread → Kernel interface State}
    {allowed : Thread → interface.Call → Prop}
    {after : Thread → Fields → Prop}
    {view : Thread → State → State}
    {pool pool' : Pool Thread interface Fields Error Value State}

/-- The moment that a thread sees. -/
def seen (view : Thread → State → State)
    (pool : Pool Thread interface Fields Error Value State)
    (thread : Thread) : Moment interface Fields Error Value State :=
  ⟨pool.rest thread, pool.fields thread, view thread pool.state⟩

/-- A step of any thread is a step or no change in the eyes of each. -/
theorem Apart.seen_step
    (apart : Apart kernel allowed view)
    (asks : ∀ thread,
      (pool.rest thread).Asks (allowed thread) (after thread)
        (pool.fields thread))
    (step : Step kernel pool pool') (thread : Thread) :
    Relation.ReflTransGen (Steps (kernel thread))
      (pool.seen view thread) (pool'.seen view thread) := by
  rcases step with @⟨mover, moment, step⟩
  by_cases same : thread = mover
  · subst same
    apply Relation.ReflTransGen.single
    have acted :=
      step.through (view thread) (apart.acts thread) (asks thread)
    simpa [seen, moveTo, Pool.moment] using acted
  · have unchanged :
        view thread moment.state = view thread pool.state := by
      rcases step.state (asks mover) with
        still | ⟨request, answer, may, answered⟩
      · exact congrArg _ still
      · exact apart.leaves _ _ _ _ _ _ same may answered
    have still :
        (pool.moveTo mover moment).seen view thread =
          pool.seen view thread := by
      simp only [seen, rest_moveTo_of_ne same,
        fields_moveTo_of_ne same]
      rw [← unchanged]
      rfl
    rw [still]

theorem asks_step
    (asks : ∀ thread,
      (pool.rest thread).Asks (allowed thread) (after thread)
        (pool.fields thread))
    (step : Step kernel pool pool') (thread : Thread) :
    (pool'.rest thread).Asks (allowed thread) (after thread)
      (pool'.fields thread) := by
  rcases step with ⟨mover, step⟩
  by_cases same : thread = mover
  · subst same
    have moved := Asks.steps (asks thread) step
    simpa [moveTo] using moved
  · rw [rest_moveTo_of_ne same, fields_moveTo_of_ne same]
    exact asks thread

theorem asks_run
    (asks : ∀ thread,
      (pool.rest thread).Asks (allowed thread) (after thread)
        (pool.fields thread))
    (run : Runs kernel pool pool') (thread : Thread) :
    (pool'.rest thread).Asks (allowed thread) (after thread)
      (pool'.fields thread) := by
  induction run generalizing thread with
  | refl => exact asks thread
  | tail _ step induction => exact asks_step induction step thread

/-- In any interleaving, each thread sees itself run alone. -/
theorem Apart.seen_run
    (apart : Apart kernel allowed view)
    (asks : ∀ thread,
      (pool.rest thread).Asks (allowed thread) (after thread)
        (pool.fields thread))
    (run : Runs kernel pool pool') (thread : Thread) :
    Relation.ReflTransGen (Steps (kernel thread))
      (pool.seen view thread) (pool'.seen view thread) := by
  induction run with
  | refl => exact .refl
  | tail earlier step induction =>
      exact
        induction.trans
          (apart.seen_step (asks_run asks earlier) step thread)

/-- A thread that ended did so as an execution of its own. -/
theorem Apart.executes
    (apart : Apart kernel allowed view)
    (asks : ∀ thread,
      (pool.rest thread).Asks (allowed thread) (after thread)
        (pool.fields thread))
    (run : Runs kernel pool pool') {thread : Thread}
    {outcome : Outcome Error Value}
    (finished : (pool'.rest thread).ended = some outcome) :
    (pool.rest thread).Executes (kernel thread)
      (pool.fields thread) (view thread pool.state)
      outcome (pool'.fields thread) (view thread pool'.state) :=
  executes_of_steps (apart.seen_run asks run thread) finished

end Separation

/-! ## What every request keeps -/

section Keeping

variable
    [DecidableEq Thread]
    {kernel : Thread → Kernel interface State}
    {pool pool' : Pool Thread interface Fields Error Value State}

/-- A condition on the shared state that no allowed request breaks. -/
theorem holds_run
    {allowed : Thread → interface.Call → Prop}
    {after : Thread → Fields → Prop} (holds : State → Prop)
    (kept : ∀ thread state request answer state',
      allowed thread request → holds state →
        kernel thread state request answer state' → holds state')
    (asks : ∀ thread,
      (pool.rest thread).Asks (allowed thread) (after thread)
        (pool.fields thread))
    (run : Runs kernel pool pool') (initially : holds pool.state) :
    holds pool'.state := by
  induction run with
  | refl => exact initially
  | tail earlier step induction =>
      rcases step with ⟨mover, step⟩
      rcases step.state (asks_run asks earlier mover) with
        still | ⟨request, answer, may, answered⟩
      · exact (congrArg holds still).mpr induction
      · exact kept _ _ _ _ _ may induction answered

end Keeping

end Pool

end Routine
