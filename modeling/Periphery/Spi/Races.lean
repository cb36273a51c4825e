import Periphery.Race
import Periphery.Routine.Parallel
import Periphery.Spi.Isolation

/-!
# Setters that race

The setter of the mode reads the mode byte, changes two of its bits and
writes it back, while the driver changes the bit order in the same byte.
When setters run at the same time, on objects for one device, a setter of the
mode may undo what others wrote to the byte since it was read.

Whatever the interleaving, and whichever requests fail, the device ends with
the settings of a sequential run of some of the setters that returned, each
at most once; and no setter of the clock speed or of the word length is lost.
-/

namespace Periphery.Spi

/-! ## What a setter does to the mode byte -/

/-- The setters that write the mode byte. -/
def Setter.OnModeByte : Setter → Prop
  | .mode _ => True
  | .bitOrder _ => True
  | .speed _ => False
  | .bitsPerWord _ => False

/-- The mode byte that a setter makes of the one it found. -/
def Setter.changeByte : Setter → Byte → Byte
  | .mode value, data8 =>
      data8 &&& ~~~(SPI_CPOL ||| SPI_CPHA) ||| value.toByte
  | .bitOrder value, data8 =>
      if (if value = .lsbFirst then 1 else 0 : Byte) ≠ 0 then
        data8 ||| SPI_LSB_FIRST
      else data8 &&& ~~~SPI_LSB_FIRST
  | .speed _, data8 => data8
  | .bitsPerWord _, data8 => data8

theorem changeByte_modeByte
    (setter : Setter) (settings : Settings) (extra : Byte) :
    setter.changeByte (modeByte settings.mode settings.bitOrder extra) =
      modeByte (setter.apply settings).mode
        (setter.apply settings).bitOrder extra := by
  cases setter with
  | mode value => exact modeByte_replace_mode ..
  | bitOrder value => exact modeByte_replace_lsbFirst ..
  | speed value => rfl
  | bitsPerWord value => rfl

section Chains

variable {Thread : Type} (call : Thread → Setter)

/-- The history of threads whose setters returned, in this order. -/
def returned (chain : List Thread) :
    List (Setter × Outcome Exception Unit) :=
  chain.map fun thread => (call thread, .returned ())

/-- The settings after the setters of a chain. -/
def settledBy (settings : Settings) (chain : List Thread) : Settings :=
  settled settings (returned call chain)

@[simp]
theorem settledBy_cons
    (settings : Settings) (thread : Thread) (chain : List Thread) :
    settledBy call settings (thread :: chain) =
      settledBy call ((call thread).apply settings) chain :=
  rfl

theorem settledBy_append
    (settings : Settings) (first second : List Thread) :
    settledBy call settings (first ++ second) =
      settledBy call (settledBy call settings first) second := by
  simp [settledBy, settled, returned]

theorem chained_changeByte
    (settings : Settings) (extra : Byte) (chain : List Thread) :
    Race.chained (fun thread => (call thread).changeByte) chain
        (modeByte settings.mode settings.bitOrder extra) =
      modeByte (settledBy call settings chain).mode
        (settledBy call settings chain).bitOrder extra := by
  induction chain generalizing settings with
  | nil => rfl
  | cons thread rest induction =>
      rw [Race.chained, List.foldl_cons, changeByte_modeByte]
      exact induction _

variable {call}

/-- Setters of other registers leave the mode and the bit order. -/
theorem settledBy_modeByte
    {settings : Settings} {chain : List Thread}
    (others : ∀ thread ∈ chain, ¬ (call thread).OnModeByte) :
    (settledBy call settings chain).mode = settings.mode ∧
      (settledBy call settings chain).bitOrder = settings.bitOrder := by
  induction chain generalizing settings with
  | nil => exact ⟨rfl, rfl⟩
  | cons thread rest induction =>
      have first := others thread List.mem_cons_self
      rw [settledBy_cons]
      rcases @induction ((call thread).apply settings)
          fun other member => others other (List.mem_cons_of_mem _ member)
        with ⟨mode, bitOrder⟩
      rw [mode, bitOrder]
      generalize call thread = setter at first
      cases setter with
      | mode value => exact absurd trivial first
      | bitOrder value => exact absurd trivial first
      | speed value => exact ⟨rfl, rfl⟩
      | bitsPerWord value => exact ⟨rfl, rfl⟩

/-- Setters of the mode byte leave the other registers. -/
theorem settledBy_others
    {settings : Settings} {chain : List Thread}
    (onByte : ∀ thread ∈ chain, (call thread).OnModeByte) :
    (settledBy call settings chain).speed = settings.speed ∧
      (settledBy call settings chain).bitsPerWord =
        settings.bitsPerWord := by
  induction chain generalizing settings with
  | nil => exact ⟨rfl, rfl⟩
  | cons thread rest induction =>
      have first := onByte thread List.mem_cons_self
      rw [settledBy_cons]
      rcases @induction ((call thread).apply settings)
          fun other member => onByte other (List.mem_cons_of_mem _ member)
        with ⟨speed, bitsPerWord⟩
      rw [speed, bitsPerWord]
      generalize call thread = setter at first
      cases setter with
      | mode value => exact ⟨rfl, rfl⟩
      | bitOrder value => exact ⟨rfl, rfl⟩
      | speed value => exact first.elim
      | bitsPerWord value => exact first.elim

end Chains

/-! ## One setter, step by step -/

/-- A request that writes the mode byte, with the check of its answer. -/
def writingMode (spi : Spi) (data8 : Byte) : Method Spi Unit :=
  .call (.ioctl spi.m_fd (.spiIocWrMode data8)) ioctlWithThrow

/-- The setter of the mode, from the answer to its first request. -/
def havingRead (spi : Spi) (value : Mode) (answer : Int × Byte) :
    Method Spi Unit := do
  let data8 ← ioctlGet answer
  ioctlWithThrow
    (← sysIoctl spi.m_fd
      (.spiIocWrMode ((Setter.mode value).changeByte data8)))

/-- The setter of the mode, when its object was looked at. -/
def readingMode (spi : Spi) (value : Mode) : Method Spi Unit :=
  .call (.ioctl spi.m_fd .spiIocRdMode) (havingRead spi value)

theorem havingRead_of_failed
    {spi : Spi} {value : Mode} {answer : Int × Byte}
    (failed : answer.1 < 0) :
    havingRead spi value answer = .raise badAddress := by
  simp only [havingRead, ioctlGet, if_pos failed]
  rfl

theorem havingRead_of_accepted
    {spi : Spi} {value : Mode} {answer : Int × Byte}
    (accepted : 0 ≤ answer.1) :
    havingRead spi value answer =
      writingMode spi ((Setter.mode value).changeByte answer.2) := by
  simp only [havingRead, ioctlGet, if_neg (Int.not_lt.mpr accepted)]
  rfl

/-- What a setter has still to do in each phase of the race. -/
inductive Stage (spi : Spi) :
    Setter → Race.Phase Byte → Method Spi Unit → Prop where
  | entered (setter : Setter) :
      Stage spi setter .fresh setter.perform
  | reading (value : Mode) :
      Stage spi (.mode value) .fresh (readingMode spi value)
  | writing (value : Mode) (data8 : Byte) :
      Stage spi (.mode value) (.holding data8)
        (writingMode spi ((Setter.mode value).changeByte data8))
  | bitOrder (value : BitOrder) :
      Stage spi (.bitOrder value) .fresh
        (.call
          (.ioctl spi.m_fd
            (.spiIocWrLsbFirst (if value = .lsbFirst then 1 else 0)))
          ioctlWithThrow)
  | speed (value : BitVec 32) :
      Stage spi (.speed value) .fresh
        (.call (.ioctl spi.m_fd (.spiIocWrMaxSpeedHz value))
          ioctlWithThrow)
  | bitsPerWord (value : Byte) :
      Stage spi (.bitsPerWord value) .fresh
        (.call (.ioctl spi.m_fd (.spiIocWrBitsPerWord value))
          ioctlWithThrow)
  | stored {setter : Setter} (onByte : setter.OnModeByte) :
      Stage spi setter .stored (.done ())
  | written {setter : Setter} (other : ¬ setter.OnModeByte) :
      Stage spi setter .fresh (.done ())
  | failed (setter : Setter) :
      Stage spi setter .gone (.raise badAddress)

/-- Every setter looks at its object first, and then makes a request. -/
theorem perform_observes (setter : Setter) (spi : Spi) :
    ∃ next, setter.perform = .observe next ∧
      Stage spi setter .fresh (next spi) ∧ next spi ≠ .done () := by
  cases setter with
  | mode value =>
      exact ⟨_, rfl, .reading value, by rintro ⟨⟩⟩
  | bitOrder value =>
      exact ⟨_, rfl, .bitOrder value, by rintro ⟨⟩⟩
  | speed value =>
      exact ⟨_, rfl, .speed value, by rintro ⟨⟩⟩
  | bitsPerWord value =>
      exact ⟨_, rfl, .bitsPerWord value, by rintro ⟨⟩⟩

/-! ## Threads on one device -/

section Racing

variable
    {Thread : Type} (spi : Thread → Spi) (call : Thread → Setter)
    (settings : Settings) (extra : Byte)

/-- The threads before they look at their objects. -/
def setting :
    Routine.Pool Thread posix Spi Exception Unit Registers where
  rest thread := (call thread).perform
  fields := spi
  state := settings.stored extra

/-- All objects are for the same device. -/
abbrev oneDevice : Thread → Kernel posix Registers :=
  fun _ => registerFile

/-- The pool is at a state of the race for the mode byte. -/
structure Matches
    (pool : Routine.Pool Thread posix Spi Exception Unit Registers)
    (state : Race.State Thread Byte) (log : List Thread) : Prop where
  stages : ∀ thread,
    Stage (spi thread) (call thread) (state.phase thread)
      (pool.rest thread)
  fields : ∀ thread, pool.fields thread = spi thread
  mode : pool.state.mode = state.cell
  speed : pool.state.speed = (settledBy call settings log).speed
  bitsPerWord :
    pool.state.bitsPerWord = (settledBy call settings log).bitsPerWord
  /-- The log lists who wrote one of the other registers. -/
  logged : ∀ thread, thread ∈ log ↔
    ¬ (call thread).OnModeByte ∧ pool.rest thread = .done ()
  different : log.Nodup

theorem matches_setting :
    Matches spi call settings (setting spi call settings extra)
      (.start (settings.stored extra).mode) [] where
  stages thread := .entered (call thread)
  fields _ := rfl
  mode := rfl
  speed := rfl
  bitsPerWord := rfl
  logged thread := by
    rcases perform_observes (call thread) (spi thread) with
      ⟨next, observes, _, _⟩
    simp [setting, observes]
  different := List.nodup_nil

variable {spi call settings extra}

variable
    [DecidableEq Thread]
    {pool pool' :
      Routine.Pool Thread posix Spi Exception Unit Registers}
    {state state' : Race.State Thread Byte} {log : List Thread}
    {thread : Thread} {rest : Method Spi Unit} {registers : Registers}

/-- A step of one thread that leaves the log. -/
theorem Matches.moveTo
    (matched : Matches spi call settings pool state log)
    {phase : Race.Phase Byte}
    (stage : Stage (spi thread) (call thread) phase rest)
    (phases : state'.phase = Function.update state.phase thread phase)
    (mode : registers.mode = state'.cell)
    (speed : registers.speed = pool.state.speed)
    (bitsPerWord : registers.bitsPerWord = pool.state.bitsPerWord)
    (before : pool.rest thread ≠ .done ())
    (after : (call thread).OnModeByte ∨ rest ≠ .done ()) :
    Matches spi call settings
      (pool.moveTo thread ⟨rest, spi thread, registers⟩) state' log where
  stages other := by
    rw [phases]
    by_cases same : other = thread
    · subst same
      simpa [Routine.Pool.moveTo] using stage
    · simpa [Routine.Pool.moveTo, same] using matched.stages other
  fields other := by
    by_cases same : other = thread
    · subst same
      simp [Routine.Pool.moveTo]
    · simpa [Routine.Pool.moveTo, same] using matched.fields other
  mode := mode
  speed := speed.trans matched.speed
  bitsPerWord := bitsPerWord.trans matched.bitsPerWord
  logged other := by
    by_cases same : other = thread
    · subst same
      rw [matched.logged]
      rcases after with onByte | unfinished
      · simp [onByte]
      · simp [Routine.Pool.moveTo, before, unfinished]
    · simpa [Routine.Pool.moveTo, same] using matched.logged other
  different := matched.different

/-- A thread that wrote one of the other registers joins the log. -/
theorem Matches.writes
    (matched : Matches spi call settings pool state log)
    (other : ¬ (call thread).OnModeByte)
    (fresh : state.phase thread = .fresh)
    (before : pool.rest thread ≠ .done ())
    (mode : registers.mode = pool.state.mode)
    (speed :
      registers.speed =
        ((call thread).apply (settledBy call settings log)).speed)
    (bitsPerWord :
      registers.bitsPerWord =
        ((call thread).apply
          (settledBy call settings log)).bitsPerWord) :
    Matches spi call settings
      (pool.moveTo thread ⟨.done (), spi thread, registers⟩) state
      (log ++ [thread]) where
  stages another := by
    by_cases same : another = thread
    · subst same
      rw [fresh]
      simpa [Routine.Pool.moveTo] using Stage.written other
    · simpa [Routine.Pool.moveTo, same] using matched.stages another
  fields another := by
    by_cases same : another = thread
    · subst same
      simp [Routine.Pool.moveTo]
    · simpa [Routine.Pool.moveTo, same] using matched.fields another
  mode := mode.trans matched.mode
  speed := by
    rw [settledBy_append]
    exact speed
  bitsPerWord := by
    rw [settledBy_append]
    exact bitsPerWord
  logged another := by
    by_cases same : another = thread
    · subst same
      simp [Routine.Pool.moveTo, other]
    · simpa [Routine.Pool.moveTo, same] using matched.logged another
  different := by
    apply List.nodup_append.mpr
    refine ⟨matched.different, List.nodup_singleton _, ?_⟩
    rintro another member _ single rfl
    obtain rfl := List.mem_singleton.mp single
    exact before ((matched.logged another).mp member).2

/-- A request that failed ends its thread and changes nothing. -/
theorem Matches.fails
    (matched : Matches spi call settings pool state log)
    (unstored : state.phase thread ≠ .stored)
    (before : pool.rest thread ≠ .done ()) :
    ∃ state' log',
      Race.Runs True (fun thread => (call thread).changeByte)
          state state' ∧
      Matches spi call settings
        (pool.moveTo thread
          ⟨.raise badAddress, spi thread, pool.state⟩)
        state' log' :=
  ⟨_, log, .single (.quit thread trivial unstored),
    matched.moveTo (.failed _) rfl matched.mode rfl rfl before
      (.inr (by rintro ⟨⟩))⟩

/-- A request that wrote the mode byte ends its thread. -/
theorem Matches.stores
    (matched : Matches spi call settings pool state log)
    {data8 : Byte} (onByte : (call thread).OnModeByte)
    (holding : state.phase thread = .holding data8)
    (before : pool.rest thread ≠ .done ()) :
    ∃ state' log',
      Race.Runs True (fun thread => (call thread).changeByte)
          state state' ∧
      Matches spi call settings
        (pool.moveTo thread
          ⟨.done (), spi thread,
            { pool.state with mode := (call thread).changeByte data8 }⟩)
        state' log' :=
  ⟨_, log, .single (.store thread holding),
    matched.moveTo (.stored onByte) rfl rfl rfl rfl before (.inl onByte)⟩

/-- A request that changes the mode byte in one go ends its thread. -/
theorem Matches.changes
    (matched : Matches spi call settings pool state log)
    (onByte : (call thread).OnModeByte)
    (fresh : state.phase thread = .fresh)
    (before : pool.rest thread ≠ .done ()) :
    ∃ state' log',
      Race.Runs True (fun thread => (call thread).changeByte)
          state state' ∧
      Matches spi call settings
        (pool.moveTo thread
          ⟨.done (), spi thread,
            { pool.state with
              mode := (call thread).changeByte pool.state.mode }⟩)
        state' log' := by
  have loads :
      Race.Step True (fun thread => (call thread).changeByte) state
        (state.enter thread (.holding state.cell)) :=
    .load thread fresh
  refine
    ⟨_, log, .tail (.single loads)
      (.store thread (Function.update_self thread _ state.phase)), ?_⟩
  refine
    matched.moveTo (.stored onByte) ?_ ?_ rfl rfl before (.inl onByte)
  · simp [Race.State.enter]
  · simp only [matched.mode]

/-- Every step of the setters is a step of the race or none. -/
theorem Matches.forward
    (matched : Matches spi call settings pool state log)
    (step : Routine.Pool.Step oneDevice pool pool') :
    ∃ state' log', Race.Runs True
        (fun thread => (call thread).changeByte) state state' ∧
      Matches spi call settings pool' state' log' := by
  rcases step with @⟨thread, moment, step⟩
  have stage := matched.stages thread
  rw [Routine.Pool.moment, matched.fields thread] at step
  have unfinished : pool.rest thread ≠ .done () := by
    intro finished
    rw [finished] at step
    cases step
  generalize phased : state.phase thread = phase at stage
  generalize here : pool.rest thread = rest at step stage
  generalize called : call thread = setter at stage
  have mode := matched.mode
  cases stage with
  | entered =>
      rcases perform_observes setter (spi thread) with
        ⟨next, observes, after, asks⟩
      rw [observes] at step
      cases step with
      | observe =>
          rw [← called, ← phased] at after
          exact
            ⟨state, log, .refl,
              matched.moveTo after (Function.update_eq_self _ _).symm
                mode rfl rfl unfinished (.inr asks)⟩
  | reading value =>
      cases step with
      | call answer answered =>
          rcases answered with ⟨rfl, correct⟩
          by_cases failed : answer.1 < 0
          · rw [havingRead_of_failed failed]
            exact matched.fails (by rw [phased]; rintro ⟨⟩) unfinished
          · have accepted := Int.not_lt.mp failed
            rw [havingRead_of_accepted accepted, correct accepted, mode]
            have writes :
                Stage (spi thread) (call thread) (.holding state.cell)
                  (writingMode (spi thread)
                    ((Setter.mode value).changeByte state.cell)) := by
              rw [called]
              exact .writing value state.cell
            exact
              ⟨_, log, .single (.load thread phased),
                matched.moveTo writes rfl mode rfl rfl unfinished
                  (.inr (by rintro ⟨⟩))⟩
  | writing value data8 =>
      cases step with
      | call error answered =>
          rcases answered with ⟨failed, rfl⟩ | ⟨accepted, rfl⟩
          · rw [ioctlWithThrow_of_failed failed]
            exact matched.fails (by rw [phased]; rintro ⟨⟩) unfinished
          · rw [ioctlWithThrow_of_accepted accepted]
            have stored :=
              matched.stores (by rw [called]; trivial) phased unfinished
            rwa [called] at stored
  | bitOrder value =>
      cases step with
      | call error answered =>
          rcases answered with ⟨failed, rfl⟩ | ⟨accepted, rfl⟩
          · rw [ioctlWithThrow_of_failed failed]
            exact matched.fails (by rw [phased]; rintro ⟨⟩) unfinished
          · rw [ioctlWithThrow_of_accepted accepted]
            have changed :=
              matched.changes (by rw [called]; trivial) phased unfinished
            rwa [called] at changed
  | speed value =>
      cases step with
      | call error answered =>
          rcases answered with ⟨failed, rfl⟩ | ⟨accepted, rfl⟩
          · rw [ioctlWithThrow_of_failed failed]
            exact matched.fails (by rw [phased]; rintro ⟨⟩) unfinished
          · rw [ioctlWithThrow_of_accepted accepted]
            refine
              ⟨state, log ++ [thread], .refl,
                matched.writes ?_ phased unfinished rfl ?_ ?_⟩
            · rw [called]
              exact id
            · rw [called]
              rfl
            · rw [called]
              exact matched.bitsPerWord
  | bitsPerWord value =>
      cases step with
      | call error answered =>
          rcases answered with ⟨failed, rfl⟩ | ⟨accepted, rfl⟩
          · rw [ioctlWithThrow_of_failed failed]
            exact matched.fails (by rw [phased]; rintro ⟨⟩) unfinished
          · rw [ioctlWithThrow_of_accepted accepted]
            refine
              ⟨state, log ++ [thread], .refl,
                matched.writes ?_ phased unfinished rfl ?_ ?_⟩
            · rw [called]
              exact id
            · rw [called]
              exact matched.speed
            · rw [called]
              rfl
  | stored onByte => cases step
  | written other => cases step
  | failed => cases step

theorem Matches.forward_run
    (matched : Matches spi call settings pool state log)
    (run : Routine.Pool.Runs oneDevice pool pool') :
    ∃ state' log',
      Race.Runs True (fun thread => (call thread).changeByte)
          state state' ∧
        Matches spi call settings pool' state' log' := by
  induction run with
  | refl => exact ⟨state, log, .refl, matched⟩
  | tail _ step induction =>
      rcases induction with ⟨middle, log', earlier, matchedMiddle⟩
      rcases matchedMiddle.forward step with
        ⟨last, log'', later, matchedLast⟩
      exact ⟨last, log'', earlier.trans later, matchedLast⟩

/-! ## What is left of the setters -/

omit [DecidableEq Thread] in
/-- Who has stored has returned, and wrote the mode byte. -/
theorem Matches.of_stored
    (matched : Matches spi call settings pool state log)
    (stored : state.phase thread = .stored) :
    pool.rest thread = .done () ∧ (call thread).OnModeByte := by
  have stage := matched.stages thread
  rw [stored] at stage
  generalize pool.rest thread = rest at stage ⊢
  generalize call thread = setter at stage ⊢
  cases stage with
  | stored onByte => exact ⟨rfl, onByte⟩

omit [DecidableEq Thread] in
/-- A setter of the mode byte that has returned has stored. -/
theorem Matches.stored_of_done
    (matched : Matches spi call settings pool state log)
    (finished : pool.rest thread = .done ())
    (onByte : (call thread).OnModeByte) :
    state.phase thread = .stored := by
  have stage := matched.stages thread
  rw [finished] at stage
  generalize state.phase thread = phase at stage ⊢
  generalize call thread = setter at stage onByte
  generalize asked : (Routine.done () : Method Spi Unit) = rest at stage
  cases stage with
  | entered setter =>
      rcases perform_observes setter (spi thread) with
        ⟨next, observes, _, _⟩
      rw [observes] at asked
      cases asked
  | reading value => cases asked
  | writing value data8 => cases asked
  | bitOrder value => cases asked
  | speed value => cases asked
  | bitsPerWord value => cases asked
  | stored onByte => rfl
  | written other => exact absurd onByte other
  | failed setter => cases asked

/--
The registers are those after the setters of a chain of threads, one after
the other.  All of these returned; of the others that returned, only setters
of the mode byte may be missing, and not all of them.
-/
structure AsChain (call : Thread → Setter) (settings : Settings)
    (extra : Byte)
    (pool : Routine.Pool Thread posix Spi Exception Unit Registers)
    (chain : List Thread) : Prop where
  different : chain.Nodup
  returned : ∀ thread ∈ chain, pool.rest thread = .done ()
  registers : pool.state = (settledBy call settings chain).stored extra
  others : ∀ thread, pool.rest thread = .done () →
    ¬ (call thread).OnModeByte → thread ∈ chain
  onModeByte : ∀ thread, pool.rest thread = .done () →
    (call thread).OnModeByte →
      ∃ other ∈ chain, (call other).OnModeByte

/--
Any number of threads that each call a setter, on objects for one device whose
requests may fail: at every moment of every interleaving, the registers are
those after some of the setters that returned, run one after the other, and
no setter of the clock speed or of the word length is missing.
-/
theorem racing_setters
    (run :
      Routine.Pool.Runs oneDevice (setting spi call settings extra)
        pool) :
    ∃ chain, AsChain call settings extra pool chain := by
  rcases (matches_setting spi call settings extra).forward_run run with
    ⟨state, log, raced, matched⟩
  rcases (Race.traceable raced).cell with ⟨chain, made, nonempty⟩
  have onByte : ∀ thread ∈ chain, (call thread).OnModeByte :=
    fun thread member => (matched.of_stored (made.2.1 thread member)).2
  have others : ∀ thread ∈ log, ¬ (call thread).OnModeByte :=
    fun thread member => ((matched.logged thread).mp member).1
  refine ⟨log ++ chain, ?_, ?_, ?_, ?_, ?_⟩
  · apply List.nodup_append.mpr
    refine ⟨matched.different, made.1, ?_⟩
    rintro thread inLog _ inChain rfl
    exact others thread inLog (onByte thread inChain)
  · intro thread member
    rcases List.mem_append.mp member with inLog | inChain
    · exact ((matched.logged thread).mp inLog).2
    · exact (matched.of_stored (made.2.1 thread inChain)).1
  · have byteKept := @settledBy_modeByte Thread call settings log others
    have othersKept :=
      @settledBy_others Thread call (settledBy call settings log) chain
        onByte
    have mode :
        pool.state.mode =
          modeByte (settledBy call settings (log ++ chain)).mode
            (settledBy call settings (log ++ chain)).bitOrder extra := by
      rw [matched.mode, made.2.2, settledBy_append,
        ← chained_changeByte, byteKept.1, byteKept.2]
      rfl
    have speed := matched.speed.trans othersKept.1.symm
    have bitsPerWord := matched.bitsPerWord.trans othersKept.2.symm
    rw [← settledBy_append] at speed bitsPerWord
    generalize pool.state = registers at mode speed bitsPerWord ⊢
    rcases registers with ⟨_, _, _⟩
    simp only at mode speed bitsPerWord
    rw [mode, speed, bitsPerWord]
    rfl
  · intro thread finished other
    exact
      List.mem_append_left _
        ((matched.logged thread).mpr ⟨other, finished⟩)
  · intro thread finished wrote
    have stored := matched.stored_of_done finished wrote
    rcases
      List.exists_mem_of_ne_nil chain (nonempty ⟨thread, stored⟩) with
        ⟨other, member⟩
    exact
      ⟨other, List.mem_append_right _ member, onByte other member⟩

end Racing

/-! ## A bit order that is lost -/

/-- One thread sets the mode and the other one the bit order. -/
def modeAndOrder : Bool → Setter
  | true => .mode .three
  | false => .bitOrder .lsbFirst

/-- Each thread has an object of its own. -/
def twoObjects : Bool → Spi
  | true => ⟨3⟩
  | false => ⟨4⟩

/-- The threads after the bit order was set between a read and a write. -/
def orderLost : Routine.Pool Bool posix Spi Exception Unit Registers :=
  (((setting twoObjects modeAndOrder megahertz 0).moveTo true
    ⟨writingMode ⟨3⟩ 3, ⟨3⟩, ⟨0, 1000000, 8⟩⟩).moveTo false
    ⟨.done (), ⟨4⟩, ⟨SPI_LSB_FIRST, 1000000, 8⟩⟩).moveTo true
    ⟨.done (), ⟨3⟩, ⟨3, 1000000, 8⟩⟩

theorem orderLost_run :
    Routine.Pool.Runs oneDevice
      (setting twoObjects modeAndOrder megahertz 0) orderLost := by
  have zero : (0 : Int) ≤ 0 := Int.le_refl 0
  refine
    ((Routine.Pool.runs_moveTo _ true ?_).trans
      (Routine.Pool.runs_moveTo _ false ?_)).trans
      (Routine.Pool.runs_moveTo _ true ?_)
  · exact
      .tail (.single .observe)
        (.ask ((0 : Int), (0 : Byte)) ⟨rfl, fun _ => rfl⟩ rfl)
  · exact
      .tail (.single .observe) (.ask (0 : Int) (.inr ⟨zero, rfl⟩) rfl)
  · exact .single (.ask (0 : Int) (.inr ⟨zero, rfl⟩) rfl)

/-- The device is left as after the setter of the mode alone. -/
theorem orderLost_asChain :
    ∃ chain, AsChain modeAndOrder megahertz 0 orderLost chain :=
  racing_setters orderLost_run

end Periphery.Spi
