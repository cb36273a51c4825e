import Periphery.Mmio.Threads
import Periphery.Race

/-!
# Races on a register

`clear` and `set` read a register and write it back, and are not atomic.
Threads that call them on one register at the same time race: the register
ends with the changes of a chain of the calls, and the others are lost.
Nothing more can be said, for every such chain comes about.
-/

namespace Periphery.Mmio

/-! ## A register as a cell of memory -/

namespace Reference

theorem register_setRegister
    (width : Nat) (memory : ByteMemory) (address : Nat)
    (value : BitVec (8 * width)) :
    register width (setRegister width memory address value) address =
      value := by
  have stored := memory.slice_overwrite address (LittleEndian.encode value)
  rw [LittleEndian.length_encode] at stored
  rw [register, setRegister, stored, LittleEndian.decode_encode]

theorem setRegister_register
    (width : Nat) (memory : ByteMemory) (address : Nat) :
    setRegister width memory address (register width memory address) =
      memory := by
  rw [setRegister, register,
    LittleEndian.encode_decode (ByteMemory.length_slice ..),
    ByteMemory.overwrite_slice]

theorem setRegister_setRegister
    (width : Nat) (memory : ByteMemory) (address : Nat)
    (first second : BitVec (8 * width)) :
    setRegister width (setRegister width memory address first) address
        second =
      setRegister width memory address second := by
  apply ByteMemory.overwrite_overwrite
  rw [LittleEndian.length_encode, LittleEndian.length_encode]

end Reference

/-! ## One call, step by step -/

section Stages

variable {width : Nat} {mmio : Mmio} {offset : Word}

/-- A write in the middle of its run, when its object was looked at. -/
def storing (mmio : Mmio) (offset : Word)
    (value : BitVec (8 * width)) : Accessor Unit :=
  .call (.store (pointer mmio offset) (LittleEndian.encode value)) .done

/-- A read-modify-write, when its object was looked at. -/
def loading (mmio : Mmio) (offset : Word)
    (change : BitVec (8 * width) → BitVec (8 * width)) :
    Accessor Unit :=
  .call (.load (pointer mmio offset) width) fun bytes =>
    writeRegister width offset (change (LittleEndian.decode width bytes))

theorem writeRegister_eq
    (passes : Passes mmio offset (BitVec.ofNat 64 width))
    (value : BitVec (8 * width)) :
    ∃ next, writeRegister width offset value = .observe next ∧
      next mmio = storing mmio offset value := by
  refine ⟨_, rfl, ?_⟩
  simp only [Bind.bind, Routine.bind]
  rw [if_neg passes]
  rfl

theorem modifyRegister_eq
    (passes : Passes mmio offset (BitVec.ofNat 64 width))
    (change : BitVec (8 * width) → BitVec (8 * width)) :
    ∃ next, modifyRegister width offset change = .observe next ∧
      next mmio = loading mmio offset change := by
  refine ⟨_, rfl, ?_⟩
  simp only [Bind.bind, Routine.bind]
  rw [if_neg passes]
  rfl

end Stages

/-! ## Threads that update one register -/

/--
Every thread updates a register of `width` bytes in its window, and all these
registers are the one at a physical address.
-/
structure SharedRegister {Thread : Type} {host : Host}
    (window : Thread → MappedWindow host) (offset : Thread → Word)
    (width address : Nat) : Prop where
  small : width < 2 ^ 64
  inside : ∀ thread,
    (offset thread).toNat + width ≤ (window thread).size.toNat
  same : ∀ thread,
    (window thread).base.toNat + (offset thread).toNat = address

section Racing

variable
    {Thread : Type} {host : Host} {width address : Nat}
    (window : Thread → MappedWindow host) (offset : Thread → Word)
    (change : Thread → BitVec (8 * width) → BitVec (8 * width))

/-- The threads before they look at their objects. -/
def updating (memory : ByteMemory) :
    Routine.Pool Thread memoryBus Mmio Exception Unit ByteMemory where
  rest thread := modifyRegister width (offset thread) (change thread)
  fields thread := (window thread).mmio
  state := memory

/-- What a thread has still to do in each phase of the race. -/
inductive Stage (thread : Thread) :
    Race.Phase (BitVec (8 * width)) → Accessor Unit → Prop where
  | entered :
      Stage thread .fresh
        (modifyRegister width (offset thread) (change thread))
  | loading :
      Stage thread .fresh
        (loading (window thread).mmio (offset thread) (change thread))
  | loaded (value : BitVec (8 * width)) :
      Stage thread (.holding value)
        (writeRegister width (offset thread) (change thread value))
  | storing (value : BitVec (8 * width)) :
      Stage thread (.holding value)
        (storing (window thread).mmio (offset thread)
          (change thread value))
  | finished : Stage thread .stored (.done ())

/-- The pool is at a state of the race for the register at `address`. -/
structure Matches (address : Nat) (memory : ByteMemory)
    (pool : Routine.Pool Thread memoryBus Mmio Exception Unit ByteMemory)
    (state : Race.State Thread (BitVec (8 * width))) : Prop where
  stages : ∀ thread,
    Stage window offset change thread (state.phase thread)
      (pool.rest thread)
  fields : ∀ thread, pool.fields thread = (window thread).mmio
  memory :
    pool.state =
      Reference.setRegister width memory address state.cell

variable {window offset change}

theorem SharedRegister.reaches
    (shared : SharedRegister window offset width address)
    (thread : Thread) :
    Reaches host (window thread).mmio (window thread).base
      (offset thread) (BitVec.ofNat 64 width) := by
  apply (window thread).reaches
  rw [toNat_ofNat_width shared.small]
  exact shared.inside thread

theorem SharedRegister.translates
    (shared : SharedRegister window offset width address)
    (thread : Thread) :
    Translates host (window thread).mmio
      (pointer (window thread).mmio (offset thread)) width address := by
  have translates := (shared.reaches thread).translates
  rw [toNat_ofNat_width shared.small, shared.same thread] at translates
  exact translates

/-- Before the first step, the cell is the register. -/
theorem matches_updating (memory : ByteMemory) :
    Matches window offset change address memory
      (updating window offset change memory)
      (.start (Reference.register width memory address)) where
  stages _ := .entered
  fields _ := rfl
  memory := (Reference.setRegister_register width memory address).symm

variable
    {memory memory' : ByteMemory}
    {pool pool' :
      Routine.Pool Thread memoryBus Mmio Exception Unit ByteMemory}
    {state state' : Race.State Thread (BitVec (8 * width))}
    {thread : Thread}

/-- The load of a thread answers the bytes of the cell. -/
theorem Matches.decode_eq
    (matched : Matches window offset change address memory pool state)
    (shared : SharedRegister window offset width address)
    {bytes : List Byte}
    (answered :
      plainMemory window thread pool.state
        (.load (pointer (window thread).mmio (offset thread)) width)
        bytes memory') :
    LittleEndian.decode width bytes = state.cell ∧
      memory' = pool.state := by
  rcases answered with ⟨first, translates, rfl, rfl⟩
  refine ⟨?_, rfl⟩
  rw [(shared.translates thread).slice_eq translates, matched.memory]
  exact Reference.register_setRegister width memory address state.cell

/-- The store of a thread replaces the cell. -/
theorem Matches.store_eq
    (matched : Matches window offset change address memory pool state)
    (shared : SharedRegister window offset width address)
    {value : BitVec (8 * width)}
    (answered :
      plainMemory window thread pool.state
        (.store (pointer (window thread).mmio (offset thread))
          (LittleEndian.encode value))
        () memory') :
    memory' = Reference.setRegister width memory address value := by
  rcases answered with ⟨first, translates, rfl⟩
  have own := shared.translates thread
  rw [← LittleEndian.length_encode value] at own
  rw [own.overwrite_eq translates, matched.memory]
  exact Reference.setRegister_setRegister ..

variable [DecidableEq Thread]

/-- A step of one thread, seen from the pool and from the race. -/
theorem Matches.moveTo
    (matched : Matches window offset change address memory pool state)
    {phase : Race.Phase (BitVec (8 * width))} {rest : Accessor Unit}
    (stage : Stage window offset change thread phase rest)
    (phases : state'.phase = Function.update state.phase thread phase)
    (stored :
      memory' =
        Reference.setRegister width memory address state'.cell) :
    Matches window offset change address memory
      (pool.moveTo thread ⟨rest, (window thread).mmio, memory'⟩)
      state' := by
  refine ⟨fun other => ?_, fun other => ?_, stored⟩
  · rw [phases]
    by_cases same : other = thread
    · subst same
      simpa [Routine.Pool.moveTo] using stage
    · simpa [Routine.Pool.moveTo, same] using matched.stages other
  · by_cases same : other = thread
    · subst same
      simp [Routine.Pool.moveTo]
    · simpa [Routine.Pool.moveTo, same] using matched.fields other

/-- A step of one thread that the race does not notice. -/
theorem Matches.stutter
    (matched : Matches window offset change address memory pool state)
    {rest : Accessor Unit}
    (stage :
      Stage window offset change thread (state.phase thread) rest) :
    Matches window offset change address memory
      (pool.moveTo thread ⟨rest, (window thread).mmio, pool.state⟩)
      state :=
  matched.moveTo stage (Function.update_eq_self _ _).symm matched.memory

/-- Every step of the threads is a step of the race or none. -/
theorem Matches.forward
    (matched : Matches window offset change address memory pool state)
    (shared : SharedRegister window offset width address)
    (step : Routine.Pool.Step (plainMemory window) pool pool') :
    ∃ state', Race.Runs False change state state' ∧
      Matches window offset change address memory pool' state' := by
  rcases step with @⟨thread, moment, step⟩
  have passes := (shared.reaches thread).passes
  have stage := matched.stages thread
  rw [Routine.Pool.moment, matched.fields thread] at step
  generalize here : pool.rest thread = rest at step stage
  generalize phased : state.phase thread = phase at stage
  cases stage with
  | entered =>
      rcases modifyRegister_eq passes (change thread) with
        ⟨next, observes, after⟩
      rw [observes] at step
      cases step with
      | observe =>
          rw [after]
          refine ⟨state, .refl, matched.stutter ?_⟩
          rw [phased]
          exact .loading
  | loading =>
      cases step with
      | call bytes answered =>
          rcases matched.decode_eq shared answered with ⟨value, rfl⟩
          have loaded :
              Stage window offset change thread (.holding state.cell)
                (writeRegister width (offset thread)
                  (change thread (LittleEndian.decode width bytes))) := by
            rw [value]
            exact .loaded state.cell
          exact
            ⟨_, .single (.load thread phased),
              matched.moveTo loaded rfl matched.memory⟩
  | loaded value =>
      rcases writeRegister_eq passes (change thread value) with
        ⟨next, observes, after⟩
      rw [observes] at step
      cases step with
      | observe =>
          rw [after]
          refine ⟨state, .refl, matched.stutter ?_⟩
          rw [phased]
          exact .storing value
  | storing value =>
      cases step with
      | call answer answered =>
          exact
            ⟨_, .single (.store thread phased),
              matched.moveTo .finished rfl
                (matched.store_eq shared answered)⟩
  | finished => cases step

/-- A thread that has looked at its object may load. -/
theorem Matches.loads
    (matched : Matches window offset change address memory pool state)
    (shared : SharedRegister window offset width address)
    (here :
      pool.rest thread =
        loading (window thread).mmio (offset thread) (change thread)) :
    ∃ pool', Routine.Pool.Step (plainMemory window) pool pool' ∧
      Matches window offset change address memory pool'
        (state.enter thread (.holding state.cell)) := by
  let bytes := pool.state.slice address width
  have answered :
      plainMemory window thread pool.state
        (.load (pointer (window thread).mmio (offset thread)) width)
        bytes pool.state :=
    ⟨address, shared.translates thread, rfl, rfl⟩
  have step :
      Routine.Steps (plainMemory window thread) (pool.moment thread)
        ⟨writeRegister width (offset thread)
            (change thread (LittleEndian.decode width bytes)),
          (window thread).mmio, pool.state⟩ := by
    rw [Routine.Pool.moment, here, matched.fields thread, loading]
    exact .ask _ answered rfl
  have loaded :
      Stage window offset change thread (.holding state.cell)
        (writeRegister width (offset thread)
          (change thread (LittleEndian.decode width bytes))) := by
    rw [(matched.decode_eq shared answered).1]
    exact .loaded state.cell
  exact ⟨_, .thread thread step, matched.moveTo loaded rfl matched.memory⟩

/-- A thread that has looked at its object again may store. -/
theorem Matches.stores
    (matched : Matches window offset change address memory pool state)
    (shared : SharedRegister window offset width address)
    {value : BitVec (8 * width)}
    (here :
      pool.rest thread =
        storing (window thread).mmio (offset thread)
          (change thread value)) :
    ∃ pool', Routine.Pool.Step (plainMemory window) pool pool' ∧
      Matches window offset change address memory pool'
        { state.enter thread .stored with
          cell := change thread value } := by
  have answered :
      plainMemory window thread pool.state
        (.store (pointer (window thread).mmio (offset thread))
          (LittleEndian.encode (change thread value)))
        ()
        (pool.state.overwrite address
          (LittleEndian.encode (change thread value))) := by
    refine ⟨address, ?_, rfl⟩
    rw [LittleEndian.length_encode]
    exact shared.translates thread
  have step :
      Routine.Steps (plainMemory window thread) (pool.moment thread)
        ⟨.done (), (window thread).mmio,
          pool.state.overwrite address
            (LittleEndian.encode (change thread value))⟩ := by
    rw [Routine.Pool.moment, here, matched.fields thread, storing]
    exact .ask _ answered rfl
  exact
    ⟨_, .thread thread step,
      matched.moveTo .finished rfl (matched.store_eq shared answered)⟩

/-- A thread that has not looked at its object may do so. -/
theorem Matches.observes
    (matched : Matches window offset change address memory pool state)
    {next : Mmio → Accessor Unit}
    (here : pool.rest thread = .observe next)
    (stage :
      Stage window offset change thread (state.phase thread)
        (next (window thread).mmio)) :
    ∃ pool', Routine.Pool.Step (plainMemory window) pool pool' ∧
      Matches window offset change address memory pool' state ∧
      pool'.rest thread = next (window thread).mmio := by
  have step :
      Routine.Steps (plainMemory window thread) (pool.moment thread)
        ⟨next (window thread).mmio, (window thread).mmio,
          pool.state⟩ := by
    rw [Routine.Pool.moment, here, matched.fields thread]
    exact .observe
  refine ⟨_, .thread thread step, matched.stutter stage, ?_⟩
  simp [Routine.Pool.moveTo]

/-- Every step of the race is made by steps of the threads. -/
theorem Matches.backward
    (matched : Matches window offset change address memory pool state)
    (shared : SharedRegister window offset width address)
    (step : Race.Step False change state state') :
    ∃ pool', Routine.Pool.Runs (plainMemory window) pool pool' ∧
      Matches window offset change address memory pool' state' := by
  cases step with
  | load thread fresh =>
      have stage := matched.stages thread
      rw [fresh] at stage
      generalize here : pool.rest thread = rest at stage
      cases stage with
      | entered =>
          rcases modifyRegister_eq (shared.reaches thread).passes
              (change thread) with
            ⟨next, observes, after⟩
          have loads :
              Stage window offset change thread (state.phase thread)
                (next (window thread).mmio) := by
            rw [fresh, after]
            exact .loading
          rcases matched.observes (here.trans observes) loads with
            ⟨middle, first, matchedMiddle, hereMiddle⟩
          rcases
              matchedMiddle.loads shared (hereMiddle.trans after)
            with ⟨last, second, matchedLast⟩
          exact ⟨last, .tail (.single first) second, matchedLast⟩
      | loading =>
          rcases matched.loads shared here with
            ⟨last, only, matchedLast⟩
          exact ⟨last, .single only, matchedLast⟩
  | @store thread value holding =>
      have stage := matched.stages thread
      rw [holding] at stage
      generalize here : pool.rest thread = rest at stage
      cases stage with
      | loaded =>
          rcases writeRegister_eq (shared.reaches thread).passes
              (change thread value) with
            ⟨next, observes, after⟩
          have stores :
              Stage window offset change thread (state.phase thread)
                (next (window thread).mmio) := by
            rw [holding, after]
            exact .storing value
          rcases matched.observes (here.trans observes) stores with
            ⟨middle, first, matchedMiddle, hereMiddle⟩
          rcases
              matchedMiddle.stores shared (hereMiddle.trans after)
            with ⟨last, second, matchedLast⟩
          exact ⟨last, .tail (.single first) second, matchedLast⟩
      | storing =>
          rcases matched.stores shared here with
            ⟨last, only, matchedLast⟩
          exact ⟨last, .single only, matchedLast⟩
  | quit thread may => exact may.elim

theorem Matches.forward_run
    (matched : Matches window offset change address memory pool state)
    (shared : SharedRegister window offset width address)
    (run : Routine.Pool.Runs (plainMemory window) pool pool') :
    ∃ state', Race.Runs False change state state' ∧
      Matches window offset change address memory pool' state' := by
  induction run with
  | refl => exact ⟨state, .refl, matched⟩
  | tail _ step induction =>
      rcases induction with ⟨middle, earlier, matchedMiddle⟩
      rcases matchedMiddle.forward shared step with
        ⟨last, later, matchedLast⟩
      exact ⟨last, earlier.trans later, matchedLast⟩

theorem Matches.backward_run
    (matched : Matches window offset change address memory pool state)
    (shared : SharedRegister window offset width address)
    (run : Race.Runs False change state state') :
    ∃ pool', Routine.Pool.Runs (plainMemory window) pool pool' ∧
      Matches window offset change address memory pool' state' := by
  induction run with
  | refl => exact ⟨pool, .refl, matched⟩
  | tail _ step induction =>
      rcases induction with ⟨middle, earlier, matchedMiddle⟩
      rcases matchedMiddle.backward shared step with
        ⟨last, later, matchedLast⟩
      exact ⟨last, earlier.trans later, matchedLast⟩

omit [DecidableEq Thread] in
/-- A thread returned exactly if its party stored. -/
theorem Matches.ended_iff
    (matched : Matches window offset change address memory pool state) :
    (pool.rest thread).ended = some (.returned ()) ↔
      state.phase thread = .stored := by
  have stage := matched.stages thread
  generalize pool.rest thread = rest at stage ⊢
  generalize state.phase thread = phase at stage ⊢
  cases stage with
  | entered => exact ⟨by rintro ⟨⟩, by rintro ⟨⟩⟩
  | loading => exact ⟨by rintro ⟨⟩, by rintro ⟨⟩⟩
  | loaded value => exact ⟨by rintro ⟨⟩, by rintro ⟨⟩⟩
  | storing value => exact ⟨by rintro ⟨⟩, by rintro ⟨⟩⟩
  | finished => exact ⟨fun _ => rfl, fun _ => rfl⟩

/--
Any number of threads that each read, change and write back one register,
through any windows that show it: once all have returned, the register holds
the changes of a nonempty chain of different threads, one applied after the
other, and the rest of the memory is as before; and each such chain is the
outcome of some interleaving, whichever changes it leaves out.
-/
theorem racing_updates_iff [Finite Thread] [Nonempty Thread]
    (shared : SharedRegister window offset width address)
    (memory memory' : ByteMemory) :
    (∃ pool,
        Routine.Pool.Runs (plainMemory window)
            (updating window offset change memory) pool ∧
          (∀ thread,
            (pool.rest thread).ended = some (.returned ())) ∧
          pool.state = memory') ↔
      ∃ chain : List Thread, chain.Nodup ∧ chain ≠ [] ∧
        memory' =
          Reference.setRegister width memory address
            (Race.chained change chain
              (Reference.register width memory address)) := by
  have start : Matches window offset change address memory
      (updating window offset change memory)
      (.start (Reference.register width memory address)) :=
    matches_updating memory
  constructor
  · rintro ⟨pool, run, ended, rfl⟩
    rcases start.forward_run shared run with ⟨state, raced, matched⟩
    rcases
        (Race.exists_stored_iff False change _ _).mp
          ⟨state, raced,
            fun thread => matched.ended_iff.mp (ended thread), rfl⟩ with
      ⟨chain, different, nonempty, made⟩
    exact
      ⟨chain, different, nonempty, by rw [matched.memory, made]⟩
  · rintro ⟨chain, different, nonempty, rfl⟩
    rcases
        (Race.exists_stored_iff False change
          (Reference.register width memory address) _).mpr
          ⟨chain, different, nonempty, rfl⟩ with
      ⟨state, raced, stored, made⟩
    rcases start.backward_run shared raced with ⟨pool, run, matched⟩
    exact
      ⟨pool, run, fun thread => matched.ended_iff.mpr (stored thread),
        by rw [matched.memory, made]⟩

end Racing

/-! ## Two threads that set bits -/

theorem maps_byteWindow :
    Maps 1 1 (idleHost.mapAt 4096 ⟨0, 2, 0⟩).pageSize byteWindow
      ⟨0, 2, 0⟩ :=
  ⟨rfl, rfl, rfl, rfl, rfl, rfl, by decide⟩

theorem byteWindow_bounded :
    (1 : Word).toNat + (1 : Word).toNat < 2 ^ 64 := by
  decide

/-- Two threads on the window of one byte. -/
def bothOnByte :
    Bool → MappedWindow (idleHost.mapAt 4096 ⟨0, 2, 0⟩) :=
  fun _ =>
    { mmio := byteWindow
      base := 1
      size := 1
      mapping := ⟨0, 2, 0⟩
      maps := maps_byteWindow
      mapped := rfl
      bounded := byteWindow_bounded }

/-- The body of `set8` with the masks 1 and 2. -/
def setOwnBit (thread : Bool) (value : BitVec (8 * 1)) :
    BitVec (8 * 1) :=
  value ||| if thread then 1 else 2

/-- Of two bits that are set at the same time one may be lost. -/
theorem set_bit_lost :
    ∃ pool,
      Routine.Pool.Runs (plainMemory bothOnByte)
          (updating bothOnByte (fun _ => 0) setOwnBit fun _ => 0) pool ∧
        (∀ thread, (pool.rest thread).ended = some (.returned ())) ∧
        pool.state =
          Reference.setRegister 1 (fun _ => 0) 1 (1 : BitVec (8 * 1)) :=
  (racing_updates_iff
    ⟨by decide, fun _ => by decide, fun _ => rfl⟩ _ _).mpr
    ⟨[true], List.nodup_singleton _, List.cons_ne_nil _ _, rfl⟩

end Periphery.Mmio
