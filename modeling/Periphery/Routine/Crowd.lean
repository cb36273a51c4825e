import Mathlib.Logic.Function.Basic
import Periphery.Merge
import Periphery.Routine.Progress

/-!
# Crowds

Many threads, each in a loop of its own, share a state.  The threads take
their steps in any order.

Each thread may look at the shared state through a view.  If the requests of
a thread act on its own view as some kernel does, and leave the views of the
others alone, then in every interleaving each thread sees a run of its own
loop over that kernel.
-/

namespace Routine

variable
    {interface : Interface} {Thread Fields Error State Shown : Type}
    {Value : Thread → Type}

/-- Where the threads stand, and the state they share. -/
structure Crowd
    (loop : (thread : Thread) →
      Loop interface Fields Error (Value thread))
    (State : Type) where
  rest : (thread : Thread) → (loop thread).Rest
  fields : Thread → Fields
  state : State

namespace Crowd

variable
    {loop : (thread : Thread) →
      Loop interface Fields Error (Value thread)}

/-- Every thread before its first step. -/
def start (fields : Thread → Fields) (state : State) :
    Crowd loop State where
  rest thread := (loop thread).entry
  fields := fields
  state := state

/-- A thread as it stands, with its view of the state. -/
def seen (view : Thread → State → Shown) (crowd : Crowd loop State)
    (thread : Thread) : (loop thread).Point Shown :=
  ⟨crowd.rest thread, crowd.fields thread, view thread crowd.state⟩

/-- A thread as it stands, with the whole state. -/
def point (crowd : Crowd loop State) (thread : Thread) :
    (loop thread).Point State :=
  crowd.seen (fun _ state => state) thread

/-! ## Views -/

/-- What each thread sees, and that it does not see the others. -/
structure Alone (kernel : Thread → Kernel interface State)
    (view : Thread → State → Shown)
    (shown : Thread → Kernel interface Shown) : Prop where
  acts : ∀ thread state request answer state',
    kernel thread state request answer state' →
      shown thread (view thread state) request answer
        (view thread state')
  leaves : ∀ thread other state request answer state',
    other ≠ thread → kernel thread state request answer state' →
      view other state' = view other state

section Views

variable
    {kernel : Thread → Kernel interface State}
    {view : Thread → State → Shown}
    {shown : Thread → Kernel interface Shown}

/-- A step of a thread is a step on its own view. -/
theorem Alone.steps
    (alone : Alone kernel view shown) {thread : Thread}
    {rest rest' : (loop thread).Rest} {fields fields' : Fields}
    {state state' : State}
    (advances :
      (loop thread).Advances (kernel thread) rest fields state
        rest' fields' state') :
    (loop thread).Advances (shown thread) rest fields (view thread state)
      rest' fields' (view thread state') := by
  cases advances with
  | observe => exact .observe
  | assign => exact .assign
  | call answered => exact .call (alone.acts _ _ _ _ _ answered)
  | around => exact .around

/-- A step of another thread changes nothing in the eyes of this one. -/
theorem Alone.still
    (alone : Alone kernel view shown) {thread other : Thread}
    (different : other ≠ thread)
    {rest rest' : (loop thread).Rest} {fields fields' : Fields}
    {state state' : State}
    (advances :
      (loop thread).Advances (kernel thread) rest fields state
        rest' fields' state') :
    view other state' = view other state := by
  cases advances with
  | observe => rfl
  | assign => rfl
  | call answered => exact alone.leaves _ _ _ _ _ _ different answered
  | around => rfl

end Views

/-! ## Interleavings -/

variable [DecidableEq Thread]

/-- The crowd after a thread has come to a point. -/
def moveTo (crowd : Crowd loop State) (thread : Thread)
    (point : (loop thread).Point State) : Crowd loop State where
  rest := Function.update crowd.rest thread point.rest
  fields := Function.update crowd.fields thread point.fields
  state := point.state

@[simp]
theorem rest_moveTo_self
    (crowd : Crowd loop State) (thread : Thread)
    (point : (loop thread).Point State) :
    (crowd.moveTo thread point).rest thread = point.rest :=
  Function.update_self _ _ _

theorem rest_moveTo_of_ne
    (crowd : Crowd loop State) {thread other : Thread}
    (different : other ≠ thread) (point : (loop thread).Point State) :
    (crowd.moveTo thread point).rest other = crowd.rest other :=
  Function.update_of_ne different _ _

theorem seen_moveTo_self
    (view : Thread → State → Shown) (crowd : Crowd loop State)
    (thread : Thread) (point : (loop thread).Point State) :
    (crowd.moveTo thread point).seen view thread =
      ⟨point.rest, point.fields, view thread point.state⟩ := by
  simp [seen, moveTo]

theorem seen_moveTo_of_ne
    (view : Thread → State → Shown) (crowd : Crowd loop State)
    {thread other : Thread} (different : other ≠ thread)
    (point : (loop thread).Point State) :
    (crowd.moveTo thread point).seen view other =
      ⟨crowd.rest other, crowd.fields other, view other point.state⟩ := by
  simp [seen, moveTo, different]

/-- Some thread takes a step; each has a kernel of its own. -/
inductive Step (kernel : Thread → Kernel interface State)
    (crowd : Crowd loop State) : Crowd loop State → Prop where
  | thread (thread : Thread) {point : (loop thread).Point State}
      (steps :
        (loop thread).Steps (kernel thread) (crowd.point thread) point) :
      Step kernel crowd (crowd.moveTo thread point)

/-- Every interleaving, up to any moment. -/
abbrev Runs (kernel : Thread → Kernel interface State) :
    Crowd loop State → Crowd loop State → Prop :=
  Relation.ReflTransGen (Step kernel)

section Runs

variable
    {kernel : Thread → Kernel interface State}
    {view : Thread → State → Shown}
    {shown : Thread → Kernel interface Shown}
    {crowd : Crowd loop State}

/-- In any interleaving, each thread sees a run of its own loop. -/
theorem Alone.reaches
    (alone : Alone kernel view shown)
    {fields : Thread → Fields} {state : State}
    (run : Runs kernel (start fields state) crowd) (thread : Thread) :
    (loop thread).Reaches (shown thread) (fields thread)
      (view thread state) (crowd.seen view thread) := by
  induction run with
  | refl => exact .refl
  | @tail crowd _ earlier step induction =>
      rcases step with @⟨mover, point, steps⟩
      by_cases same : thread = mover
      · subst same
        rw [seen_moveTo_self]
        exact induction.tail (alone.steps steps)
      · rw [seen_moveTo_of_ne view crowd same, alone.still same steps]
        exact induction

/-- A thread may run for a while on its own. -/
theorem runs_moveTo
    (crowd : Crowd loop State) (thread : Thread)
    {point : (loop thread).Point State}
    (run :
      Relation.ReflTransGen ((loop thread).Steps (kernel thread))
        (crowd.point thread) point) :
    Runs kernel crowd (crowd.moveTo thread point) := by
  induction run with
  | refl =>
      have still : crowd.moveTo thread (crowd.point thread) = crowd := by
        simp [moveTo, Crowd.point, seen]
      rw [still]
  | @tail middle last _ step induction =>
      have again :
          (crowd.moveTo thread middle).moveTo thread last =
            crowd.moveTo thread last := by
        simp [moveTo]
      have next :
          (loop thread).Steps (kernel thread)
            ((crowd.moveTo thread middle).point thread) last := by
        rw [Crowd.point, seen_moveTo_self]
        exact step
      rw [← again]
      exact induction.tail (.thread thread next)

/--
Each thread has items to deal with, one after the other, and stands somewhere
behind each of them.  If a thread may always go on by one item, the items may
be dealt with in any merged order.
-/
theorem plays
    {Item : Type} {fields : Thread → Fields} {state : State}
    (items : Thread → List Item)
    (stands : (thread : Thread) → List Item → (loop thread).Rest)
    (holds : List (Thread × Item) → State → Prop)
    (enters : ∀ thread, stands thread [] = (loop thread).entry)
    (starts : holds [] state)
    (goesOn : ∀ labelled mover item state,
      Merge.part mover labelled ++ [item] <+: items mover →
      holds labelled state →
        ∃ state',
          Relation.ReflTransGen ((loop mover).Steps (kernel mover))
              ⟨stands mover (Merge.part mover labelled), fields mover,
                state⟩
              ⟨stands mover (Merge.part mover labelled ++ [item]),
                fields mover, state'⟩ ∧
            holds (labelled ++ [(mover, item)]) state')
    (labelled : List (Thread × Item))
    (prefixes : ∀ thread, Merge.part thread labelled <+: items thread) :
    ∃ crowd, Runs kernel (start fields state) crowd ∧
      (∀ thread,
        crowd.rest thread = stands thread (Merge.part thread labelled)) ∧
      crowd.fields = fields ∧ holds labelled crowd.state := by
  induction labelled using List.reverseRecOn with
  | nil =>
      exact
        ⟨start fields state, .refl, fun thread => (enters thread).symm,
          rfl, starts⟩
  | append_singleton labelled entry induction =>
      rcases entry with ⟨mover, item⟩
      have earlier : ∀ thread,
          Merge.part thread labelled <+: items thread := by
        intro thread
        apply List.IsPrefix.trans ?_ (prefixes thread)
        rw [Merge.part_append]
        exact List.prefix_append _ _
      rcases induction earlier with ⟨crowd, run, behind, same, held⟩
      have next := prefixes mover
      rw [Merge.part_append, Merge.part_self] at next
      rcases goesOn labelled mover item crowd.state next held with
        ⟨state', steps, held'⟩
      have point :
          crowd.point mover =
            ⟨stands mover (Merge.part mover labelled), fields mover,
              crowd.state⟩ := by
        rw [Crowd.point, seen, behind mover, same]
      rw [← point] at steps
      refine ⟨_, run.trans (runs_moveTo crowd mover steps), ?_, ?_, held'⟩
      · intro thread
        by_cases moved : thread = mover
        · subst moved
          rw [rest_moveTo_self, Merge.part_append, Merge.part_self]
        · rw [rest_moveTo_of_ne crowd moved, Merge.part_append,
            Merge.part_of_ne (Ne.symm moved), List.append_nil]
          exact behind thread
      · rw [moveTo, same, Function.update_eq_self]

end Runs

end Crowd

end Routine
