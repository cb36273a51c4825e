import Periphery.History
import Periphery.Routine.View
import Periphery.Spi.Isolation
import Periphery.Spi.Transfer

/-!
# Conversations with an SPI device

A client sets attributes, asks for them and exchanges bytes, in any order.
The descriptor of a transfer names neither a speed nor a word length, so the
driver clocks it as its registers say.

Whichever calls fail, every exchange on the wires belongs to a transfer that
returned, was clocked with the settings that were in force then, and moved
the bytes of the two buffers.
-/

namespace Periphery.Spi

/-! ## The device and its client -/

/-- Bytes that passed over the wires, and how they were clocked. -/
structure Exchange where
  clocked : Registers
  sent : List Byte
  answered : List Byte
deriving DecidableEq, Repr

/-- A device with its wires, and the memory of the client. -/
structure Bench where
  registers : Registers
  exchanges : List Exchange
  memory : ByteMemory
  /-- The memory as it was when the latest call began. -/
  found : ByteMemory

/-- A descriptor may override the speed and the word length. -/
def Registers.clock (registers : Registers)
    (spi_xfer : SpiIocTransfer) : Registers where
  mode := registers.mode
  speed :=
    if spi_xfer.speed_hz = 0 then registers.speed else spi_xfer.speed_hz
  bitsPerWord :=
    if spi_xfer.bits_per_word = 0 then registers.bitsPerWord
    else spi_xfer.bits_per_word

/-- The device answered the bytes behind `tx_buf`. -/
def Bench.exchange (bench : Bench) (spi_xfer : SpiIocTransfer)
    (answers : List Byte) : Bench :=
  { bench with
    memory := bench.memory.overwrite spi_xfer.rx_buf.toNat answers
    exchanges :=
      bench.exchanges ++
        [⟨bench.registers.clock spi_xfer,
          bench.memory.slice spi_xfer.tx_buf.toNat spi_xfer.len.toNat,
          answers⟩] }

/--
The driver: it carries a descriptor out for exactly its length, or fails and
stores nothing; all other requests are for the registers.
-/
def benchKernel : Kernel posix Bench :=
  fun bench request answer bench' =>
    match request, answer with
    | .ioctl _ (.spiIocMessage spi_xfer), error =>
        error < 0 ∧ bench' = bench ∨
          0 ≤ error ∧
            ∃ answers : List Byte, answers.length = spi_xfer.len.toNat ∧
              bench' = bench.exchange spi_xfer answers
    | request, answer =>
        ∃ registers',
          registerFile bench.registers request answer registers' ∧
            bench' = { bench with registers := registers' }

/-! ## Calls -/

/-- A call of one of the member functions. -/
inductive Call where
  | set (setter : Setter)
  | mode
  | bitOrder
  | speed
  | bitsPerWord
  | transfer (txbuf rxbuf len : Word)
deriving DecidableEq, Repr

namespace Call

/-- What a call returns. -/
abbrev Value : Call → Type
  | .set _ => Unit
  | .mode => Mode
  | .bitOrder => BitOrder
  | .speed => BitVec 32
  | .bitsPerWord => Byte
  | .transfer _ _ _ => Unit

/-- The member function that a call runs. -/
def method : (call : Call) → Method Spi call.Value
  | .set setter => setter.perform
  | .mode => Spi.mode
  | .bitOrder => Spi.bitOrder
  | .speed => Spi.speed
  | .bitsPerWord => Spi.bitsPerWord
  | .transfer txbuf rxbuf len => Spi.transfer txbuf rxbuf len

/-- A member function has no loop. -/
def perform (call : Call) :
    Routine.Loop posix Spi Exception call.Value :=
  .once call.method

end Call

/-- A call that ended, with what it left. -/
abbrev SpiEnded : Type := Routine.Ended Call.Value Exception Bench

/-- The descriptor that `transfer` fills in. -/
def descriptor (txbuf rxbuf len : Word) : SpiIocTransfer where
  tx_buf := txbuf
  rx_buf := rxbuf
  len := len.setWidth 32
  speed_hz := 0
  delay_usecs := 0
  bits_per_word := 0
  cs_change := 0

/-- What passed over the wires during a transfer that returned. -/
def transferred (registers : Registers) (txbuf rxbuf len : Word)
    (bench : Bench) : Exchange where
  clocked := registers
  sent := bench.found.slice txbuf.toNat (len.toNat % 2 ^ 32)
  answered := bench.memory.slice rxbuf.toNat (len.toNat % 2 ^ 32)

/-- What a client knows: the settings, and what it exchanged. -/
structure Transcript where
  settings : Settings
  exchanges : List Exchange

/-- The transcript after a call; calls that threw change nothing. -/
def Transcript.after (extra : Byte) (transcript : Transcript)
    (ended : SpiEnded) : Transcript :=
  match ended with
  | ⟨.set setter, .returned _, _⟩ =>
      { transcript with settings := setter.apply transcript.settings }
  | ⟨.transfer txbuf rxbuf len, .returned _, bench⟩ =>
      { transcript with
        exchanges :=
          transcript.exchanges ++
            [transferred (transcript.settings.stored extra)
              txbuf rxbuf len bench] }
  | _ => transcript

/-- The transcript of some calls. -/
def transcript (extra : Byte) (settings : Settings)
    (ended : List SpiEnded) : Transcript :=
  ended.foldl (Transcript.after extra) ⟨settings, []⟩

@[simp]
theorem transcript_append
    (extra : Byte) (settings : Settings) (ended : List SpiEnded)
    (call : SpiEnded) :
    transcript extra settings (ended ++ [call]) =
      (transcript extra settings ended).after extra call := by
  simp [transcript]

/-- What the getters tell of the settings; there is one bit order only. -/
def Settings.told (settings : Settings) :
    (call : Call) → Option call.Value
  | .mode => some settings.mode
  | .bitOrder => some BitOrder.msbFirst
  | .speed => some settings.speed
  | .bitsPerWord => some settings.bitsPerWord
  | .set _ => none
  | .transfer _ _ _ => none

/-- A getter that returned told the settings. -/
def Settings.ToldBy (settings : Settings) (ended : SpiEnded) : Prop :=
  ∀ told value, settings.told ended.call = some told →
    ended.outcome = .returned value → value = told

/-- A getter leaves the transcript as it is. -/
theorem Transcript.after_getter
    {extra : Byte} {transcript : Transcript} {settings : Settings}
    {call : Call} {value : call.Value}
    (getter : settings.told call = some value)
    (outcome : Outcome Exception call.Value) (bench : Bench) :
    transcript.after extra ⟨call, outcome, bench⟩ = transcript := by
  cases call with
  | set setter => cases getter
  | transfer txbuf rxbuf len => cases getter
  | mode => cases outcome <;> rfl
  | bitOrder => cases outcome <;> rfl
  | speed => cases outcome <;> rfl
  | bitsPerWord => cases outcome <;> rfl

/-! ## What each kind of call does -/

/-- Requests for the registers. -/
def OnRegisters : posix.Call → Prop
  | .ioctl _ (.spiIocMessage _) => False
  | _ => True

/-- Requests that read a register. -/
def OnlyReads : posix.Call → Prop
  | .ioctl _ .spiIocRdMode => True
  | .ioctl _ .spiIocRdLsbFirst => True
  | .ioctl _ .spiIocRdMaxSpeedHz => True
  | .ioctl _ .spiIocRdBitsPerWord => True
  | _ => False

/-- All of the bench but its registers. -/
def Bench.others (bench : Bench) :
    List Exchange × ByteMemory × ByteMemory :=
  (bench.exchanges, bench.memory, bench.found)

/-- Requests for the registers leave the wires and the memory alone. -/
theorem benchKernel_onRegisters
    (bench : Bench) (request : posix.Call)
    (answer : posix.Answer request) (bench' : Bench)
    (allowed : OnRegisters request)
    (answered : benchKernel bench request answer bench') :
    registerFile bench.registers request answer bench'.registers ∧
      bench'.others = bench.others := by
  unfold benchKernel at answered
  split at answered
  · exact allowed.elim
  · rcases answered with ⟨registers', answered, rfl⟩
    exact ⟨answered, rfl⟩

theorem registerFile_onlyReads
    {registers registers' : Registers} {request : posix.Call}
    {answer : posix.Answer request} (allowed : OnlyReads request)
    (answered : registerFile registers request answer registers') :
    registers' = registers := by
  unfold OnlyReads at allowed
  split at allowed
  · exact answered.1
  · exact answered.1
  · exact answered.1
  · exact answered.1
  · exact allowed.elim

/-- The world does not move by itself. -/
abbrev onBench : Kernel posix Bench :=
  benchKernel.amid fun _ _ => False

theorem onBench_onRegisters
    (bench : Bench) (request : posix.Call)
    (answer : posix.Answer request) (bench' : Bench)
    (allowed : OnRegisters request)
    (answered : onBench bench request answer bench') :
    registerFile bench.registers request answer bench'.registers ∧
      bench'.others = bench.others :=
  benchKernel_onRegisters _ _ _ _ allowed
    (Kernel.amid_still.mp answered)

/-- Requests that read a register change nothing at all. -/
theorem onBench_onlyReads
    (bench : Bench) (request : posix.Call)
    (answer : posix.Answer request) (bench' : Bench)
    (allowed : OnlyReads request)
    (answered : onBench bench request answer bench') :
    registerFile bench.registers request answer bench'.registers ∧
      bench' = bench := by
  have onRegisters : OnRegisters request := by
    unfold OnlyReads at allowed
    split at allowed
    · trivial
    · trivial
    · trivial
    · trivial
    · exact allowed.elim
  rcases onBench_onRegisters _ _ _ _ onRegisters answered with
    ⟨read, others⟩
  refine ⟨read, ?_⟩
  have registers := registerFile_onlyReads allowed read
  rcases bench with ⟨_, _, _, _⟩
  rcases bench' with ⟨_, _, _, _⟩
  cases registers
  cases others
  rfl

section Asking

variable {allowed : posix.Call → Prop} {spi : Spi}

theorem ioctlWithThrow_asks (error : Int) :
    (ioctlWithThrow error).Asks allowed (fun _ => True) spi := by
  unfold ioctlWithThrow
  split
  · trivial
  · trivial

theorem ioctlGet_asks {Register : Type} (answer : Int × Register) :
    (ioctlGet answer).Asks allowed (fun fields => fields = spi) spi := by
  unfold ioctlGet
  by_cases failed : answer.1 < 0
  · rw [if_pos failed]
    trivial
  · rw [if_neg failed]
    rfl

theorem setter_asks (setter : Setter) :
    setter.perform.Asks OnRegisters (fun _ => True) spi := by
  cases setter with
  | mode value =>
      refine ⟨trivial, fun answer => ?_⟩
      refine (ioctlGet_asks answer).bind fun data8 fields _ => ?_
      exact ⟨trivial, ioctlWithThrow_asks⟩
  | bitOrder value => exact ⟨trivial, ioctlWithThrow_asks⟩
  | speed value => exact ⟨trivial, ioctlWithThrow_asks⟩
  | bitsPerWord value => exact ⟨trivial, ioctlWithThrow_asks⟩

theorem getter_asks
    {settings : Settings} {call : Call} {value : call.Value}
    (getter : settings.told call = some value) :
    call.method.Asks OnlyReads (fun _ => True) spi := by
  have getting : ∀ {Register : Type} {answer : Int × Register},
      (ioctlGet answer).Asks OnlyReads (fun _ => True) spi := by
    intro Register answer
    exact (ioctlGet_asks answer).mono fun _ _ => trivial
  cases call with
  | set setter => cases getter
  | transfer txbuf rxbuf len => cases getter
  | mode => exact ⟨trivial, fun _ => getting.bind fun _ _ _ => trivial⟩
  | bitOrder =>
      exact ⟨trivial, fun _ => getting.bind fun _ _ _ => trivial⟩
  | speed => exact ⟨trivial, fun _ => getting⟩
  | bitsPerWord => exact ⟨trivial, fun _ => getting⟩

end Asking

/-! ## The rule of a getter -/

theorem getter_answers
    {settings : Settings} {call : Call} {value : call.Value}
    (getter : settings.told call = some value) (extra : Byte)
    (spi : Spi) :
    Answers call.method spi (settings.stored extra) value := by
  cases call with
  | set setter => cases getter
  | transfer txbuf rxbuf len => cases getter
  | mode =>
      cases getter
      exact mode_answers _ _ _
  | bitOrder =>
      cases getter
      exact bitOrder_answers_msbFirst _ _
  | speed =>
      cases getter
      exact speed_answers _ _ _
  | bitsPerWord =>
      cases getter
      exact bitsPerWord_answers _ _ _

/-- A getter answers what the registers say, and changes nothing. -/
theorem getter_upholds
    {Value : Type} {getter : Method Spi Value} {value : Value}
    {spi : Spi} {bench : Bench}
    (asks : getter.Asks OnlyReads (fun _ => True) spi)
    (answers : Answers getter spi bench.registers value) :
    getter.Upholds onBench (fun bench' => bench' = bench)
      (fun outcome _ bench' =>
        (∀ answer, outcome = .returned answer → answer = value) ∧
          bench' = bench)
      spi bench := by
  have ensured :
      getter.Ensures registerFile
        (fun outcome _ _ =>
          ∀ answer, outcome = .returned answer → answer = value)
        spi bench.registers := by
    rw [Routine.ensures_iff_forall_executes]
    rintro _ spi' registers' executed answer rfl
    exact answers _ _ _ executed
  exact asks.upholds_view onBench_onlyReads ensured rfl

/-! ## The client -/

/-- Between two calls the client may change its memory. -/
def Bench.Prepares (_ : Call) (bench bench' : Bench) : Prop :=
  ∃ memory, bench' = { bench with memory := memory, found := memory }

/-- What a client of a device may have come to. -/
abbrev Converses (spi₀ : Spi) (bench₀ : Bench)
    (situation : Routine.Situation Call.perform Bench) : Prop :=
  Relation.ReflTransGen
    (Routine.Happens Call.perform benchKernel (fun _ _ => False)
      Bench.Prepares)
    (.start _ spi₀ bench₀) situation

section Conversing

variable
    (extra : Byte) (settings : Settings) (before : List Exchange)
    (ended : List SpiEnded)

/-- Every getter told the settings that were in force. -/
def Told : Prop :=
  History.Every
    (fun earlier =>
      (transcript extra settings earlier).settings.ToldBy)
    ended

/-- What holds between calls. -/
structure BetweenCalls (bench : Bench) : Prop where
  registers :
    bench.registers =
      (transcript extra settings ended).settings.stored extra
  exchanges :
    bench.exchanges =
      before ++ (transcript extra settings ended).exchanges
  told : Told extra settings ended

/-- The call in progress has exchanged all of its bytes. -/
def Underway (call : Call) (bench : Bench) : Prop :=
  ∃ txbuf rxbuf len, call = .transfer txbuf rxbuf len ∧
    bench.exchanges =
      before ++ (transcript extra settings ended).exchanges ++
        [transferred
          ((transcript extra settings ended).settings.stored extra)
          txbuf rxbuf len bench]

/-- What holds during a call. -/
structure DuringCall (call : Call) (bench : Bench) : Prop where
  exchanges :
    bench.exchanges =
        before ++ (transcript extra settings ended).exchanges ∨
      Underway extra settings before ended call bench
  told : Told extra settings ended

variable
    {extra settings before ended} {spi : Spi} {bench : Bench}

theorem BetweenCalls.during
    (between : BetweenCalls extra settings before ended bench)
    {call : Call} {bench' : Bench}
    (same : bench'.exchanges = bench.exchanges) :
    DuringCall extra settings before ended call bench' :=
  ⟨.inl (same.trans between.exchanges), between.told⟩

/-- A call of a getter. -/
theorem BetweenCalls.sustains_getter
    (between : BetweenCalls extra settings before ended bench)
    {call : Call} {value : call.Value}
    (getter :
      (transcript extra settings ended).settings.told call =
        some value) :
    call.perform.Sustains onBench
      (DuringCall extra settings before ended call)
      (fun outcome _ bench' =>
        BetweenCalls extra settings before
          (ended ++ [⟨call, outcome, bench'⟩]) bench')
      call.perform.entry spi bench := by
  have answers := getter_answers getter extra spi
  rw [← between.registers] at answers
  have upheld := getter_upholds (getter_asks getter) answers
  apply (Routine.Loop.sustains_once upheld).mono
  · rintro bench' rfl
    exact between.during rfl
  · rintro outcome _ bench' _ ⟨correct, rfl⟩
    refine ⟨?_, ?_, History.every_concat between.told ?_⟩
    · rw [transcript_append, Transcript.after_getter getter]
      exact between.registers
    · rw [transcript_append, Transcript.after_getter getter]
      exact between.exchanges
    · intro told answer getter' returned
      rw [getter] at getter'
      cases getter'
      exact correct answer returned

/-- A call of a setter. -/
theorem BetweenCalls.sustains_setter
    (between : BetweenCalls extra settings before ended bench)
    (setter : Setter) :
    (Call.set setter).perform.Sustains onBench
      (DuringCall extra settings before ended (.set setter))
      (fun outcome _ bench' =>
        BetweenCalls extra settings before
          (ended ++ [⟨.set setter, outcome, bench'⟩]) bench')
      (Call.set setter).perform.entry spi bench := by
  have ensured :=
    perform_ensures extra (transcript extra settings ended).settings
      setter spi
  rw [← between.registers] at ensured
  have upheld :=
    (setter_asks setter).upholds_view onBench_onRegisters ensured
      (Eq.refl bench.others)
  apply (Routine.Loop.sustains_once upheld).mono
  · intro bench' others
    exact between.during (congrArg Prod.fst others)
  · rintro outcome _ bench' _ ⟨stored, others⟩
    have exchanges := (congrArg Prod.fst others).trans between.exchanges
    cases outcome with
    | returned value =>
        refine ⟨?_, ?_, History.every_concat between.told (by rintro _ _ ⟨⟩)⟩
        · rw [transcript_append]
          exact stored
        · rw [transcript_append]
          exact exchanges
    | threw error =>
        refine ⟨?_, ?_, History.every_concat between.told (by rintro _ _ ⟨⟩)⟩
        · rw [transcript_append]
          exact stored
        · rw [transcript_append]
          exact exchanges

/-- The descriptor of a transfer leaves the clock to the registers. -/
theorem exchange_descriptor
    (fresh : bench.found = bench.memory) (txbuf rxbuf : Word)
    {len : Word} {answers : List Byte}
    (length : answers.length = (len.setWidth 32).toNat) :
    (bench.exchange (descriptor txbuf rxbuf len) answers).exchanges =
      bench.exchanges ++
        [transferred bench.registers txbuf rxbuf len
          (bench.exchange (descriptor txbuf rxbuf len) answers)] := by
  have answered :
      (bench.memory.overwrite rxbuf.toNat answers).slice rxbuf.toNat
          (len.toNat % 2 ^ 32) =
        answers := by
    rw [← BitVec.toNat_setWidth, ← length, ByteMemory.slice_overwrite]
  simp only [Bench.exchange, transferred, fresh, answered, descriptor,
    BitVec.toNat_setWidth]
  rfl

/-- A call of `transfer`, right after the client left its memory. -/
theorem BetweenCalls.sustains_transfer
    (between : BetweenCalls extra settings before ended bench)
    (fresh : bench.found = bench.memory) (txbuf rxbuf len : Word) :
    (Call.transfer txbuf rxbuf len).perform.Sustains onBench
      (DuringCall extra settings before ended
        (.transfer txbuf rxbuf len))
      (fun outcome _ bench' =>
        BetweenCalls extra settings before
          (ended ++ [⟨.transfer txbuf rxbuf len, outcome, bench'⟩])
          bench')
      (Call.transfer txbuf rxbuf len).perform.entry spi bench := by
  apply Routine.Loop.sustains_once
  refine ⟨between.during rfl, fun (error : Int) bench' answered => ?_⟩
  rcases Kernel.amid_still.mp answered with
    ⟨failed, rfl⟩ | ⟨accepted, answers, length, rfl⟩
  · change (ioctlWithThrow error).Upholds _ _ _ _ _
    rw [ioctlWithThrow_of_failed failed]
    refine
      ⟨between.during rfl, ?_, ?_,
        History.every_concat between.told (by rintro _ _ ⟨⟩)⟩
    · rw [transcript_append]
      exact between.registers
    · rw [transcript_append]
      exact between.exchanges
  · change (ioctlWithThrow error).Upholds _ _ _ _ _
    rw [ioctlWithThrow_of_accepted accepted]
    have exchanges := exchange_descriptor fresh txbuf rxbuf length
    rw [between.exchanges, between.registers] at exchanges
    refine
      ⟨⟨.inr ⟨txbuf, rxbuf, len, rfl, exchanges⟩, between.told⟩, ?_, ?_,
        History.every_concat between.told (by rintro _ _ ⟨⟩)⟩
    · rw [transcript_append]
      exact between.registers
    · rw [transcript_append]
      exact exchanges.trans (List.append_assoc _ _ _)

/-- Every call keeps what holds between calls. -/
theorem BetweenCalls.sustains
    (between : BetweenCalls extra settings before ended bench)
    (fresh : bench.found = bench.memory) (call : Call) :
    call.perform.Sustains onBench
      (DuringCall extra settings before ended call)
      (fun outcome _ bench' =>
        BetweenCalls extra settings before
          (ended ++ [⟨call, outcome, bench'⟩]) bench')
      call.perform.entry spi bench := by
  cases call with
  | set setter => exact between.sustains_setter setter
  | transfer txbuf rxbuf len =>
      exact between.sustains_transfer fresh txbuf rxbuf len
  | mode => exact between.sustains_getter rfl
  | bitOrder => exact between.sustains_getter rfl
  | speed => exact between.sustains_getter rfl
  | bitsPerWord => exact between.sustains_getter rfl

end Conversing

/-! ## The constructor -/

theorem configure_asks (fd error : Int) (spi : Spi) :
    (configure fd error).Asks OnRegisters (fun _ => True) spi := by
  unfold configure
  by_cases failed : error < 0
  · rw [if_pos failed]
    exact ⟨trivial, fun _ => trivial⟩
  · rw [if_neg failed]
    trivial

theorem construct_asks
    (path : String) (mode : Mode) (bit_order : BitOrder)
    (speed : BitVec 32) (bits_per_word extra_flags : Byte) (raw : Spi) :
    (construct path mode bit_order speed bits_per_word
        extra_flags).Asks OnRegisters (fun _ => True) raw := by
  refine ⟨trivial, fun (fd : Int) => ?_⟩
  change Routine.Asks OnRegisters _ (ite (fd < 0) _ _) _
  split
  · trivial
  · refine ⟨trivial, fun error => ?_⟩
    refine (configure_asks fd error ⟨fd⟩).bind fun _ spi _ => ?_
    refine ⟨trivial, fun error => ?_⟩
    refine (configure_asks fd error spi).bind fun _ spi _ => ?_
    exact ⟨trivial, fun error => configure_asks fd error spi⟩

/-- A constructor that returns leaves its settings and an idle bus. -/
theorem construct_between
    (path : String) (settings : Settings) (extra : Byte) (raw : Spi)
    (before : Bench) :
    (construct path settings.mode settings.bitOrder settings.speed
        settings.bitsPerWord extra).Ensures benchKernel
      (fun outcome _ bench =>
        outcome = .returned () →
          BetweenCalls extra (settings.combined extra) before.exchanges
            [] bench)
      raw before := by
  have installs :=
    construct_combines path settings extra raw before.registers
  have upheld :=
    (construct_asks path settings.mode settings.bitOrder settings.speed
      settings.bitsPerWord extra raw).upholds_view
      benchKernel_onRegisters installs
      (Eq.refl before.others)
  apply upheld.ensures.mono
  rintro _ _ bench ⟨installed, others⟩ rfl
  refine ⟨installed, ?_, History.every_nil _⟩
  exact
    (congrArg Prod.fst others).trans (List.append_nil _).symm

/-! ## Whole conversations -/

/--
For every constructor that returns, with any extra flags, and everything that
a client does then, whichever calls fail: the registers hold the settings of
the transcript; what passed over the wires is what its transfers exchanged,
each clocked with the settings of its time; and every getter told the
settings, except that there is one bit order only.
-/
theorem conversation_follows_transcript
    {path : String} {settings : Settings} {extra : Byte}
    {raw spi₀ : Spi} {before bench₀ : Bench}
    (constructed :
      (construct path settings.mode settings.bitOrder settings.speed
          settings.bitsPerWord extra).Executes benchKernel
        raw before (.returned ()) spi₀ bench₀)
    {situation : Routine.Situation Call.perform Bench}
    (run : Converses spi₀ bench₀ situation) :
    (∀ earlier ended, earlier ++ [ended] <+: situation.ended →
      (transcript extra (settings.combined extra)
        earlier).settings.ToldBy ended) ∧
    (situation.pending = none →
      situation.state.registers =
          (transcript extra (settings.combined extra)
            situation.ended).settings.stored extra ∧
        situation.state.exchanges =
          before.exchanges ++
            (transcript extra (settings.combined extra)
              situation.ended).exchanges) ∧
    ∀ call rest, situation.pending = some ⟨call, rest⟩ →
      situation.state.exchanges =
          before.exchanges ++
            (transcript extra (settings.combined extra)
              situation.ended).exchanges ∨
        Underway extra (settings.combined extra) before.exchanges
          situation.ended call situation.state := by
  have started :=
    (construct_between path settings extra raw before).of_executes
      constructed rfl
  have finds :
      situation.Finds _
        (BetweenCalls extra (settings.combined extra) before.exchanges)
        (DuringCall extra (settings.combined extra)
          before.exchanges) := by
    apply Routine.Situation.finds run started
    · exact fun _ _ _ _ impossible => impossible.elim
    · rintro ended call spi bench _ between ⟨memory, rfl⟩
      have prepared :
          BetweenCalls extra (settings.combined extra)
            before.exchanges ended
            { bench with memory := memory, found := memory } :=
        ⟨between.registers, between.exchanges, between.told⟩
      exact prepared.sustains rfl call
  rw [Routine.Situation.Finds] at finds
  split at finds
  · next idle =>
      refine
        ⟨finds.told, fun _ => ⟨finds.registers, finds.exchanges⟩,
          fun call rest busy => ?_⟩
      rw [idle] at busy
      cases busy
  · next pending busy =>
      refine ⟨finds.told, fun idle => ?_, fun call rest busy' => ?_⟩
      · rw [idle] at busy
        cases busy
      · rw [busy] at busy'
        cases busy'
        exact finds.exchanges

/-- A call that looks at its object and makes one request. -/
theorem Converses.asks
    {spi₀ spi : Spi} {bench₀ bench bench' : Bench}
    {ended : List SpiEnded}
    (run : Converses spi₀ bench₀ ⟨ended, none, spi, bench⟩)
    (call : Call) {looked rest : call.perform.Rest}
    {outcome : Outcome Exception call.Value}
    (looks :
      call.perform.Advances onBench call.perform.entry spi
        { bench with found := bench.memory }
        looked spi { bench with found := bench.memory })
    (advances :
      call.perform.Advances onBench looked spi
        { bench with found := bench.memory } rest spi bench')
    (left :
      Routine.Loop.Point.outcome ⟨rest, spi, bench'⟩ = some outcome) :
    Converses spi₀ bench₀
      ⟨ended ++ [⟨call, outcome, bench'⟩], none, spi, bench'⟩ :=
  (((run.tail (.begins rfl ⟨bench.memory, rfl⟩)).tail
    (.advances rfl looks)).tail (.advances rfl advances)).tail
      (.ends rfl left)

/-! ## Two bytes at a new speed -/

/-- A device that was not used, and the two bytes at the address 16. -/
def unusedBench : Bench where
  registers := ⟨0, 0, 0⟩
  exchanges := []
  memory := twoBytesToSend.memory
  found := twoBytesToSend.memory

/-- The device after its constructor. -/
def megahertzBench : Bench :=
  { unusedBench with registers := megahertz.stored 0 }

/-- The device at half the speed. -/
def slowBench : Bench :=
  { unusedBench with registers := ⟨0, 500000, 8⟩ }

/-- The device when both bytes were replaced by its answers. -/
def answeredBench : Bench :=
  slowBench.exchange (descriptor 16 16 2) [0xff, 0xff]

/-- The speed was set, and two bytes were exchanged in place. -/
def slowTransfer : List SpiEnded :=
  [⟨.set (.speed 500000), .returned (), slowBench⟩,
    ⟨.transfer 16 16 2, .returned (), answeredBench⟩]

theorem construct_megahertzBench :
    (construct "/dev/spi1.1" .zero .msbFirst 1000000 8 0).Executes
      benchKernel ⟨-1⟩ unusedBench (.returned ()) ⟨3⟩
      megahertzBench := by
  apply Routine.Executes.call (3 : Int) ⟨_, rfl, rfl⟩
  apply Routine.Executes.call (0 : Int)
    ⟨_, .inr ⟨by decide, rfl⟩, rfl⟩
  apply Routine.Executes.call (0 : Int)
    ⟨_, .inr ⟨by decide, rfl⟩, rfl⟩
  apply Routine.Executes.call (0 : Int)
    ⟨_, .inr ⟨by decide, rfl⟩, rfl⟩
  exact ⟨rfl, rfl, rfl⟩

theorem slowTransfer_happens :
    Converses ⟨3⟩ megahertzBench
      ⟨slowTransfer, none, ⟨3⟩, answeredBench⟩ := by
  have set :
      onBench megahertzBench (.ioctl 3 (.spiIocWrMaxSpeedHz 500000))
        (0 : Int) slowBench :=
    Kernel.amid_still.mpr ⟨_, .inr ⟨by decide, rfl⟩, rfl⟩
  have exchanged :
      onBench slowBench (.ioctl 3 (.spiIocMessage (descriptor 16 16 2)))
        (0 : Int) answeredBench :=
    Kernel.amid_still.mpr
      (.inr ⟨by decide, [0xff, 0xff], rfl, rfl⟩)
  have begun :
      Converses ⟨3⟩ megahertzBench ⟨[], none, ⟨3⟩, megahertzBench⟩ :=
    .refl
  exact
    (begun.asks (.set (.speed 500000)) .observe
      (.of_call _ rfl set rfl) rfl).asks (.transfer 16 16 2) .observe
        (.of_call _ rfl exchanged rfl) rfl

/-- The bytes were clocked at the new speed. -/
theorem slowTransfer_exchanged :
    answeredBench.exchanges =
      [⟨⟨0, 500000, 8⟩, [0x9f, 0], [0xff, 0xff]⟩] := by
  have follows :=
    (@conversation_follows_transcript "/dev/spi1.1" megahertz 0 ⟨-1⟩ ⟨3⟩
      unusedBench megahertzBench construct_megahertzBench
      ⟨slowTransfer, none, ⟨3⟩, answeredBench⟩
      slowTransfer_happens).2.1 rfl
  exact follows.2

end Periphery.Spi
