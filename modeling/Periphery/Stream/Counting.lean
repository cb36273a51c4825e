import Periphery.Stream.HangUp
import Periphery.Stream.Filling

/-!
# The counts that the reads return

The reads return how much they stored as an `int`.  Linux hands out less in
one `read` than an `int` can count, so `read` and `read_timeout` return what
they stored.  `read_all_timeout` adds up any number of reads, and nothing
keeps the sum below the limit.
-/

namespace Periphery

/-- The value is the number of bytes that the call was handed out. -/
def Counts (value : Int) (intake : Intake) : Prop :=
  0 ≤ value ∧ value = (receivedBytes intake.events).length

theorem counts_toInt_iff (intake : Intake) :
    Counts (toInt (receivedBytes intake.events).length) intake ↔
      (receivedBytes intake.events).length < 2 ^ 31 := by
  have exactly :=
    toInt_eq_iff (Int.natCast_nonneg (receivedBytes intake.events).length)
  constructor
  · rintro ⟨_, same⟩
    have small := exactly.mp same
    omega
  · intro small
    have same := exactly.mpr (by omega)
    rw [Counts, same]
    exact ⟨Int.natCast_nonneg _, rfl⟩

/-- A call that returned counts what it stored. -/
def EndsExact : Outcome Exception Int → Unit → Intake → Prop
  | .returned value, _, intake => Counts value intake
  | .threw _, _, _ => True

/-- A call that returned counts what it stored, as an `int`. -/
def EndsNarrowed : Outcome Exception Int → Unit → Intake → Prop
  | .returned value, _, intake =>
      value = toInt (receivedBytes intake.events).length
  | .threw _, _, _ => True

/-! ## Single reads -/

namespace Stream

section Single

variable
    {fd : Int} {device : ReadDevice} {memory : ByteMemory}
    {buffer : MutableBuffer} {intake : Intake}

/-- One read, before which nothing was handed out. -/
theorem read_upholds_exact
    (limited : device.Limited)
    (filled : FillsFrom device memory buffer buffer intake)
    (nothing : receivedBytes intake.events = []) :
    (read fd buffer).Upholds (readKernel fd device)
      (FillsInOrder device memory buffer) EndsExact () intake := by
  simp only [read, Routine.upholds_bind]
  apply upholds_readChecked filled.2
  intro ret intake' replied
  rcases filled.read replied with
    ⟨failed, next, _⟩ | ⟨bytes, most, rfl, may, rfl, next⟩
  · exact
      ⟨next.2, fun _ => trivial,
        fun returned => absurd failed returned⟩
  · refine ⟨next.2, fun failed => absurd failed (by omega), ?_⟩
    intro _
    refine ⟨next.2, ?_⟩
    have received :
        receivedBytes
            (intake.record
              (.handed buffer.data buffer.size bytes)).events =
          bytes := by
      rw [Intake.record, receivedBytes_concat, nothing, List.nil_append]
      rfl
    have counts :=
      counts_toInt_iff
        (intake.record (.handed buffer.data buffer.size bytes))
    rw [received] at counts
    exact counts.mpr (limited.narrow _ _ _ bytes may)

theorem readTimeout_upholds_exact
    (limited : device.Limited)
    (filled : FillsFrom device memory buffer buffer intake)
    (nothing : receivedBytes intake.events = []) (timeout : Int) :
    (readTimeout fd buffer timeout).Upholds (readKernel fd device)
      (FillsInOrder device memory buffer) EndsExact () intake := by
  simp only [readTimeout, Routine.upholds_bind]
  apply upholds_waitReadable filled.2
  · intro _ ret left intake' replied
    rcases filled.wait replied with ⟨elapsed, rfl, next⟩
    have still :
        receivedBytes
            (intake.record
              (.waited (.ofMilliseconds timeout) elapsed ret
                left)).events = [] := by
      rw [Intake.record, receivedBytes_concat, nothing]
      rfl
    refine ⟨next.2, fun _ => trivial, fun _ => ⟨next.2, ?_⟩, fun _ => ?_⟩
    · rw [EndsExact, Counts, still]
      exact ⟨Int.le_refl 0, rfl⟩
    · exact read_upholds_exact limited next still
  · exact fun _ => read_upholds_exact limited filled nothing

end Single

end Stream

/-! ## Both classes -/

/--
For both classes, every buffer and every device that keeps to the limit of
Linux: whenever `read` or `read_timeout` returns, its value is the number of
bytes handed out, which lie at the start of the buffer; and whenever
`read_all_timeout` returns, its value is that number exactly if it is less
than `2 ^ 31`.
-/
theorem StreamPort.returned_counts_iff
    (port : StreamPort) (memory : ByteMemory) (buffer : MutableBuffer)
    (timeout : Int) {device : ReadDevice} (limited : device.Limited) :
    (∀ (point : (port.perform (.read buffer)).Point Intake)
        (value : Int),
      (port.perform (.read buffer)).Reaches
          (readKernel port.fd device) () ⟨memory, []⟩ point →
        point.outcome = some (.returned value) →
          FillsInOrder device memory buffer point.state ∧
            Counts value point.state) ∧
    (∀ (point : (port.perform (.readTimeout buffer timeout)).Point
          Intake)
        (value : Int),
      (port.perform (.readTimeout buffer timeout)).Reaches
          (readKernel port.fd device) () ⟨memory, []⟩ point →
        point.outcome = some (.returned value) →
          FillsInOrder device memory buffer point.state ∧
            Counts value point.state) ∧
    ∀ (point : (port.perform (.readAllTimeout buffer timeout)).Point
          Intake)
        (value : Int),
      (port.perform (.readAllTimeout buffer timeout)).Reaches
          (readKernel port.fd device) () ⟨memory, []⟩ point →
        point.outcome = some (.returned value) →
          FillsInOrder device memory buffer point.state ∧
            (Counts value point.state ↔
              (receivedBytes point.state.events).length < 2 ^ 31) := by
  rw [port.perform_read, port.perform_readTimeout,
    port.perform_readAllTimeout]
  refine ⟨?_, ?_, ?_⟩
  · intro point value reaches returned
    have upheld :
        (Stream.read port.fd buffer).Upholds (readKernel port.fd device)
          (FillsInOrder device memory buffer) EndsExact ()
          ⟨memory, []⟩ :=
      Stream.read_upholds_exact limited fillsFrom_start rfl
    have throughout :=
      (Routine.Loop.sustains_once upheld).throughout reaches
    exact ⟨throughout.1, throughout.2 _ returned⟩
  · intro point value reaches returned
    have upheld :
        (Stream.readTimeout port.fd buffer timeout).Upholds
          (readKernel port.fd device)
          (FillsInOrder device memory buffer) EndsExact ()
          ⟨memory, []⟩ :=
      Stream.readTimeout_upholds_exact limited fillsFrom_start rfl timeout
    have throughout :=
      (Routine.Loop.sustains_once upheld).throughout reaches
    exact ⟨throughout.1, throughout.2 _ returned⟩
  · intro point value reaches returned
    have keeps :
        (Stream.readAllTimeout port.fd buffer timeout).Keeps
          (readKernel port.fd device) (FillsInOrder device memory buffer)
          (fun cursor _ => FillsFrom device memory buffer cursor.1)
          EndsNarrowed :=
      Stream.readAllTimeout_keeps_filling buffer timeout
        (fun _ _ => trivial)
        (fun _ _ filled _ => Stream.bytesStored_eq filled)
    have throughout := (keeps.sustains fillsFrom_start).throughout reaches
    have narrowed := throughout.2 _ returned
    rw [EndsNarrowed] at narrowed
    rw [narrowed]
    exact ⟨throughout.1, counts_toInt_iff _⟩

/-! ## Buffers that are filled -/

/-- A read that fills the buffer, and the count that is returned. -/
theorem Stream.readAllTimeout_fills_up
    (fd : Int) {device : ReadDevice} (original cursor : MutableBuffer)
    (timeout : Int) (left : Timeval) {intake : Intake}
    {bytes : List Byte}
    (may :
      device intake.events (.handed cursor.data cursor.size bytes))
    (most : bytes.length ≤ cursor.size)
    (full : ¬ (cursor.advance bytes.length).size > 0) {value : Int}
    (counted :
      bytesStored original (cursor.advance bytes.length) = value) :
    (readAllTimeout fd original timeout).Advances
      (readKernel fd device)
      (readRound fd original cursor left) () intake
      (.done (.inr value)) ()
      (intake.record (.handed cursor.data cursor.size bytes)) := by
  apply readRound_advances fd original cursor timeout left may most
  rw [if_neg full, counted]

/-- A call without a timeout starts with a read. -/
theorem Stream.readAllTimeout_starts
    (fd : Int) (device : ReadDevice) (memory : ByteMemory)
    (buffer : MutableBuffer) :
    (readAllTimeout fd buffer (-1)).Reaches (readKernel fd device) ()
      ⟨memory, []⟩
      ⟨readRound fd buffer buffer (.ofMilliseconds (-1)), (),
        ⟨memory, []⟩⟩ := by
  have entry :
      (readAllTimeout fd buffer (-1)).entry =
        readRound fd buffer buffer (.ofMilliseconds (-1)) :=
    readAllTimeout_body_of_negative fd buffer buffer _ (by decide)
  rw [← entry]
  exact .start

/-- A buffer of one byte is filled, and one byte is counted. -/
theorem byte_counted :
    Counts 1
      (Intake.record ⟨fun _ => 0, []⟩ (.handed 0 1 [7])) := by
  have limited : (handsOut [7]).Limited := by
    rintro earlier data count bytes rfl
    decide
  have counted :
      Stream.bytesStored ⟨0, 1, by decide⟩
          (Buffer.advance ⟨0, 1, by decide⟩ [(7 : Byte)].length) =
        1 := by
    decide
  have reaches :=
    (Stream.readAllTimeout_starts 3 (handsOut [7]) (fun _ => 0)
        ⟨0, 1, by decide⟩).advances
      (Stream.readAllTimeout_fills_up 3 ⟨0, 1, by decide⟩
        ⟨0, 1, by decide⟩ (-1) _ rfl (by decide) (by decide) counted)
  exact
    ((StreamPort.returned_counts_iff (.serial ⟨3⟩) (fun _ => 0)
        ⟨0, 1, by decide⟩ (-1) limited).2.2 _ 1 reaches rfl).2.mpr
      (Nat.one_lt_two_pow (by decide))

/-- The buffer of the next counterexample. -/
def hugeBuffer : MutableBuffer := ⟨0, 2 ^ 31, by decide⟩

/-- Two reads of `2 ^ 30` bytes fill it, and the sum is negative. -/
theorem Stream.readAllTimeout_returns_negative
    {bytes : List Byte} (length : bytes.length = 2 ^ 30) :
    ∃ point : (readAllTimeout 3 hugeBuffer (-1)).Point Intake,
      (readAllTimeout 3 hugeBuffer (-1)).Reaches
          (readKernel 3 (handsOut bytes)) () ⟨fun _ => 0, []⟩ point ∧
        point.outcome = some (.returned (-2 ^ 31)) := by
  have start :=
    readAllTimeout_starts 3 (handsOut bytes) (fun _ => 0) hugeBuffer
  have half :=
    (start.advances
      (readAllTimeout_hands 3 hugeBuffer hugeBuffer (-1) _ rfl
        (by rw [length]; decide) (by rw [length]; decide))).advances
      .around
  rw [readAllTimeout_body_of_negative _ _ _ _ (by decide)] at half
  have counted :
      bytesStored hugeBuffer
          ((hugeBuffer.advance bytes.length).advance bytes.length) =
        -2 ^ 31 := by
    rw [length]
    decide
  have whole :=
    half.advances
      (readAllTimeout_fills_up 3 hugeBuffer
        (hugeBuffer.advance bytes.length) (-1) _ rfl
        (by rw [length]; decide) (by rw [length]; decide) counted)
  exact ⟨_, whole, rfl⟩

/--
A call that is handed `2 ^ 31` bytes, within the limit of Linux, returns a
negative number.
-/
theorem huge_read_negative :
    ∃ (bytes : List Byte)
      (point : ((StreamPort.serial ⟨3⟩).perform
        (.readAllTimeout hugeBuffer (-1))).Point Intake),
      (handsOut bytes).Limited ∧
        ((StreamPort.serial ⟨3⟩).perform
            (.readAllTimeout hugeBuffer (-1))).Reaches
          (readKernel 3 (handsOut bytes)) () ⟨fun _ => 0, []⟩ point ∧
        point.outcome = some (.returned (-2 ^ 31)) ∧
        ¬ Counts (-2 ^ 31) point.state := by
  have length := @List.length_replicate Byte (2 ^ 30) 0
  rcases Stream.readAllTimeout_returns_negative length with
    ⟨point, reaches, returned⟩
  refine ⟨_, point, ?_, reaches, returned, ?_⟩
  · rintro earlier data count bytes rfl
    rw [length]
    decide
  · rintro ⟨nonneg, _⟩
    exact absurd nonneg (by decide)

end Periphery
