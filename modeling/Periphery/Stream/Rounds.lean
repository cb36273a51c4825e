import Periphery.Routine.Progress
import Periphery.Stream.Transfer

/-!
# Rounds of the transfer loops

One rule for each part of a read and for the body of each loop, for any
kernel and any conditions: what has to be shown of each answer to the system
calls.  Everything that is proved of the functions is proved from these rules.
-/

namespace Periphery.Stream

variable
    {State : Type} {kernel : Kernel posix State}
    {during : State → Prop} {state : State} {fd : Int}

/-- A read with the test of its result. -/
theorem upholds_readChecked
    {cursor : MutableBuffer}
    {post : Outcome Exception Int → Unit → State → Prop}
    (now : during state)
    (answered : ∀ (ret : Int) state',
      kernel state (.read fd cursor.data cursor.size) ret state' →
        during state' ∧
          (ret < 0 → post (.threw badAddress) () state') ∧
          (¬ ret < 0 → post (.returned ret) () state')) :
    (readChecked fd cursor).Upholds kernel during post () state := by
  simp only [readChecked, sysRead, Routine.upholds_ite,
    Routine.upholds_bind, Routine.upholds_call, Routine.upholds_done,
    Routine.upholds_raise, Routine.upholds_pure,
    Routine.thereafter_returned, Routine.thereafter_threw]
  refine ⟨now, fun ret state' replied => ?_⟩
  rcases answered ret state' replied with ⟨now', failed, moved⟩
  exact
    ⟨now', fun negative => ⟨now', failed negative⟩,
      fun positive => ⟨now', moved positive⟩⟩

/-- The wait before a timed read. -/
theorem upholds_waitReadable
    {timeout : Int} {tv : Timeval}
    {post : Outcome Exception (Option Timeval) → Unit → State → Prop}
    (now : during state)
    (waits : timeout ≥ 0 → ∀ (ret : Int) left state',
      kernel state (.select fd tv) (ret, left) state' →
        during state' ∧
          (ret < 0 → post (.threw badAddress) () state') ∧
          (ret = 0 → post (.returned none) () state') ∧
          (ret > 0 → post (.returned (some left)) () state'))
    (skips : ¬ timeout ≥ 0 → post (.returned (some tv)) () state) :
    (waitReadable fd timeout tv).Upholds kernel during post () state := by
  simp only [waitReadable, sysSelect, Routine.upholds_ite,
    Routine.upholds_bind, Routine.upholds_call, Routine.upholds_done,
    Routine.upholds_raise, Routine.upholds_pure,
    Routine.thereafter_returned, Routine.thereafter_threw]
  refine ⟨fun waiting => ⟨now, ?_⟩, fun free => ⟨now, skips free⟩⟩
  rintro ⟨ret, left⟩ state' replied
  rcases waits waiting ret left state' replied with
    ⟨now', failed, expired, ready⟩
  refine
    ⟨now', fun negative => ⟨now', failed negative⟩,
      fun nonneg => ⟨now', ?_⟩⟩
  by_cases zero : ret = 0
  · rw [if_pos zero]
    exact expired zero
  · rw [if_neg zero]
    exact ready (by omega)

/-- A round of `write`. -/
theorem upholds_write
    {buffer cursor : ConstBuffer}
    {post : Outcome Exception (ConstBuffer ⊕ Unit) → Unit → State → Prop}
    (now : during state)
    (answered : cursor.size > 0 → ∀ (ret : Int) state',
      kernel state (.write fd cursor.data cursor.size) ret state' →
        during state' ∧
          (ret < 0 → post (.threw badAddress) () state') ∧
          (¬ ret < 0 →
            post (.returned (.inl (cursor.advance (toSizeT ret))))
              () state'))
    (empty : ¬ cursor.size > 0 →
      post (.returned (.inr ())) () state) :
    ((write fd buffer).body cursor).Upholds kernel during post ()
      state := by
  by_cases remains : cursor.size > 0
  · rw [write_body fd buffer remains]
    refine ⟨now, fun ret state' replied => ?_⟩
    rcases answered remains ret state' replied with ⟨now', failed, moved⟩
    exact
      (Routine.upholds_ite _ _ _).mpr
        ⟨fun negative => ⟨now', failed negative⟩,
          fun positive => ⟨now', moved positive⟩⟩
  · have ended : (write fd buffer).body cursor = .done (.inr ()) :=
      Routine.Loop.whileDo_body_of_false (decide_eq_false remains)
    rw [ended]
    exact ⟨now, empty remains⟩

/-- A round of `read_all`. -/
theorem upholds_readAll
    {buffer cursor : MutableBuffer}
    {post :
      Outcome Exception (MutableBuffer ⊕ Unit) → Unit → State → Prop}
    (now : during state)
    (answered : cursor.size > 0 → ∀ (ret : Int) state',
      kernel state (.read fd cursor.data cursor.size) ret state' →
        during state' ∧
          (ret < 0 → post (.threw badAddress) () state') ∧
          (¬ ret < 0 →
            post
              (.returned
                (.inl (cursor.advance (toSizeT (toInt ret)))))
              () state'))
    (empty : ¬ cursor.size > 0 →
      post (.returned (.inr ())) () state) :
    ((readAll fd buffer).body cursor).Upholds kernel during post ()
      state := by
  by_cases remains : cursor.size > 0
  · rw [readAll_body fd buffer remains]
    refine ⟨now, fun ret state' replied => ?_⟩
    rcases answered remains ret state' replied with ⟨now', failed, moved⟩
    exact
      (Routine.upholds_ite _ _ _).mpr
        ⟨fun negative => ⟨now', failed negative⟩,
          fun positive => ⟨now', moved positive⟩⟩
  · have ended : (readAll fd buffer).body cursor = .done (.inr ()) :=
      Routine.Loop.whileDo_body_of_false (decide_eq_false remains)
    rw [ended]
    exact ⟨now, empty remains⟩

/-- What is left of a round of `read_all_timeout` after the wait. -/
def AfterWait (kernel : Kernel posix State) (during : State → Prop)
    (fd : Int) (original cursor : MutableBuffer) (left : Timeval)
    (post :
      Outcome Exception ((MutableBuffer × Timeval) ⊕ Int) →
        Unit → State → Prop)
    (state : State) : Prop :=
  ∀ (ret : Int) state',
    kernel state (.read fd cursor.data cursor.size) ret state' →
      during state' ∧
        (ret < 0 → post (.threw badAddress) () state') ∧
        (¬ ret < 0 →
          ((cursor.advance (toSizeT ret)).size > 0 →
            post
              (.returned (.inl (cursor.advance (toSizeT ret), left)))
              () state') ∧
          (¬ (cursor.advance (toSizeT ret)).size > 0 →
            post
              (.returned
                (.inr
                  (bytesStored original
                    (cursor.advance (toSizeT ret)))))
              () state'))

theorem upholds_readRound
    {original cursor : MutableBuffer} {left : Timeval}
    {post :
      Outcome Exception ((MutableBuffer × Timeval) ⊕ Int) →
        Unit → State → Prop}
    (now : during state)
    (reads :
      AfterWait kernel during fd original cursor left post state) :
    (readRound fd original cursor left).Upholds kernel during post ()
      state := by
  refine ⟨now, fun ret state' replied => ?_⟩
  rcases reads ret state' replied with ⟨now', failed, moved⟩
  refine
    (Routine.upholds_ite _ _ _).mpr
      ⟨fun negative => ⟨now', failed negative⟩, fun positive => ?_⟩
  rcases moved positive with ⟨more, full⟩
  exact
    (Routine.upholds_ite _ _ _).mpr
      ⟨fun remains => ⟨now', more remains⟩,
        fun done => ⟨now', full done⟩⟩

/-- A round of `read_all_timeout`. -/
theorem upholds_readAllTimeout
    {original cursor : MutableBuffer} {timeout : Int} {tv : Timeval}
    {post :
      Outcome Exception ((MutableBuffer × Timeval) ⊕ Int) →
        Unit → State → Prop}
    (now : during state)
    (waits : timeout ≥ 0 → ∀ (ret : Int) left state',
      kernel state (.select fd tv) (ret, left) state' →
        during state' ∧
          (ret < 0 → post (.threw badAddress) () state') ∧
          (ret = 0 →
            post (.returned (.inr (bytesStored original cursor)))
              () state') ∧
          (ret > 0 →
            AfterWait kernel during fd original cursor left post
              state'))
    (reads : ¬ timeout ≥ 0 →
      AfterWait kernel during fd original cursor tv post state) :
    ((readAllTimeout fd original timeout).body (cursor, tv)).Upholds
      kernel during post () state := by
  by_cases waiting : timeout ≥ 0
  · rw [readAllTimeout_body fd original cursor tv waiting]
    refine ⟨now, ?_⟩
    rintro ⟨ret, left⟩ state' replied
    rcases waits waiting ret left state' replied with
      ⟨now', failed, expired, ready⟩
    refine
      (Routine.upholds_ite _ _ _).mpr
        ⟨fun negative => ⟨now', failed negative⟩, fun nonneg => ?_⟩
    refine
      (Routine.upholds_ite _ _ _).mpr
        ⟨fun zero => ⟨now', expired zero⟩, fun different => ?_⟩
    exact upholds_readRound now' (ready (by omega))
  · rw [readAllTimeout_body_of_negative fd original cursor tv waiting]
    exact upholds_readRound now (reads waiting)

end Periphery.Stream
