import Periphery.Stream.Filling
import Periphery.Stream.Writing

/-!
# A device that is not always ready

The descriptors are opened with `O_NDELAY`, so a device that is not ready
makes `write` and `read` fail with `EAGAIN`, and a signal makes them fail with
`EINTR`.  Every other call moves at least one byte.

`write` and `read_all` take such a failure for an error.  They transfer their
whole buffer exactly if the device becomes busy only after it.
-/

namespace Periphery

/-! ## Answers -/

/-- The errors of a device that is not ready. -/
inductive NotReady where
  | again
  | interrupted
deriving DecidableEq, Repr

/-- How the device answers a call. -/
inductive TransferAnswer where
  | notReady (error : NotReady)
  /-- The device has some bytes to move. -/
  | moves (count : Nat) (some : 0 < count)
deriving DecidableEq, Repr

def TransferAnswer.count : TransferAnswer → Nat
  | .notReady _ => 0
  | .moves count _ => count

/-- The answers of the device, by the number of earlier calls. -/
abbrev BusyDevice := Nat → TransferAnswer

namespace BusyDevice

/-- The number of bytes that the device has moved before the call `n`. -/
def moved (device : BusyDevice) : Nat → Nat
  | 0 => 0
  | n + 1 => device.moved n + (device n).count

/-- The answers to `write`: an error, or as much as the device takes. -/
def accepts (device : BusyDevice) : WriteAnswers :=
  fun events count ret =>
    match device events.length with
    | .notReady _ => ret < 0
    | .moves there _ => ret = (min there count : Nat)

/-- The answers to `read`: an error, or as much as the device has. -/
def hands (device : BusyDevice) : ReadDevice :=
  fun earlier event =>
    match device earlier.length, event with
    | _, .waited .. => True
    | .notReady _, .failed .. => True
    | .notReady _, .handed .. => False
    | .moves .., .failed .. => False
    | .moves there _, .handed _ count bytes =>
        bytes.length = min there count

/-- The device is not ready only after it has moved `size` bytes. -/
def ReadyFor (device : BusyDevice) (size : Nat) : Prop :=
  ∀ n error, device n = .notReady error → size ≤ device.moved n

/-- No call can move so much of `size` bytes that an `int` cannot count it. -/
def IntSized (device : BusyDevice) (size : Nat) : Prop :=
  ∀ n, min (device n).count size < 2 ^ 31

/-- The device has answered `n` calls and has refused none of them. -/
def Served (device : BusyDevice) (n : Nat) : Prop :=
  ∀ i error, device i = .notReady error → n ≤ i

theorem moved_mono (device : BusyDevice) {n later : Nat}
    (after : n ≤ later) : device.moved n ≤ device.moved later := by
  induction after with
  | refl => exact Nat.le_refl _
  | step _ induction => exact Nat.le_add_right_of_le induction

theorem readyFor_of_served
    {device : BusyDevice} {n size : Nat} (served : device.Served n)
    (enough : size ≤ device.moved n) : device.ReadyFor size := by
  intro i error refused
  exact Nat.le_trans enough (device.moved_mono (served i error refused))

theorem served_zero (device : BusyDevice) : device.Served 0 :=
  fun i _ _ => Nat.zero_le i

/-- A call that moves something is one more that is served. -/
theorem Served.next
    {device : BusyDevice} {n count : Nat} {some : 0 < count}
    (served : device.Served n) (moves : device n = .moves count some) :
    device.Served (n + 1) ∧
      device.moved (n + 1) = device.moved n + count := by
  refine ⟨fun i error refused => ?_, by rw [moved, moves]; rfl⟩
  have before := served i error refused
  have other : i ≠ n := by
    rintro rfl
    rw [moves] at refused
    cases refused
  omega

/-- What an answer to `write` says of the device. -/
theorem accepts_cases
    {device : BusyDevice} {events : List WriteEvent} {count : Nat}
    {ret : Int} (answered : device.accepts events count ret) :
    (ret < 0 ∧ ∃ error, device events.length = .notReady error) ∨
      ∃ there some sent, device events.length = .moves there some ∧
        sent = min there count ∧ ret = (sent : Nat) := by
  unfold accepts at answered
  split at answered
  case _ error refused => exact .inl ⟨answered, error, refused⟩
  case _ there some moves =>
      exact .inr ⟨there, some, _, moves, rfl, answered⟩

/-- What an answer to `read` says of the device. -/
theorem refused_of_hands
    {device : BusyDevice} {earlier : List ReadEvent}
    {data count : Nat}
    (failed : device.hands earlier (.failed data count)) :
    ∃ error, device earlier.length = .notReady error := by
  cases answer : device earlier.length with
  | notReady error => exact ⟨error, rfl⟩
  | moves there some =>
      simp only [hands, answer] at failed

theorem moves_of_hands
    {device : BusyDevice} {earlier : List ReadEvent}
    {data count : Nat} {bytes : List Byte}
    (handed : device.hands earlier (.handed data count bytes)) :
    ∃ there some, device earlier.length = .moves there some ∧
      bytes.length = min there count := by
  cases answer : device earlier.length with
  | notReady error =>
      simp only [hands, answer] at handed
  | moves there some =>
      simp only [hands, answer] at handed
      exact ⟨there, some, rfl, handed⟩

theorem read_total (device : BusyDevice) (fd : Int) :
    (readKernel fd device.hands).Total := by
  apply readKernel_total
  · intro earlier given
    refine ⟨0, 0, given, ?_⟩
    unfold hands
    split <;> trivial
  · intro earlier data count
    unfold hands
    cases device earlier.length with
    | notReady error => exact .inl trivial
    | moves there some => exact .inr (exists_bytes there count)

theorem write_total (device : BusyDevice) (fd : Int) :
    (writeKernel fd device.accepts).Total := by
  apply writeKernel_total
  intro events count
  unfold accepts
  split
  · exact ⟨-1, by decide⟩
  · exact ⟨_, rfl⟩

end BusyDevice

/-! ## Writing -/

/-- The call has returned, and the whole buffer is sent in order. -/
def SentAll (memory : ByteMemory) (buffer : ConstBuffer) :
    Outcome Exception Unit → Unit → List WriteEvent → Prop :=
  fun outcome _ events =>
    outcome = .returned () ∧
      acceptedBytes memory events = memory.slice buffer.data buffer.size

namespace Stream

variable
    {fd : Int} {memory : ByteMemory} {device : BusyDevice}

/-- A device that becomes busy only after the buffer. -/
theorem write_ends_of_ready
    {buffer : ConstBuffer} (ready : device.ReadyFor buffer.size) :
    (write fd buffer).Ends (writeKernel fd device.accepts)
      (SentAll memory buffer) ⟨(write fd buffer).entry, (), []⟩ := by
  apply Routine.Loop.ends_of_measure (device.write_total fd)
    (fun (cursor : ConstBuffer) _ events =>
      AsksFrom memory buffer cursor () events ∧
        acceptedCount events =
          min (device.moved events.length) buffer.size)
    (fun (cursor : ConstBuffer) _ => cursor.size)
  · rintro cursor _ events ⟨asks, count⟩
    have size := asks.size
    apply asks.upholds_write _ trivial
    · intro remains ret answered _ _
      rcases BusyDevice.accepts_cases answered with
        ⟨_, error, refused⟩ | ⟨_, _, sent, _, _, rfl⟩
      · have full := ready _ _ refused
        omega
      · omega
    · intro remains taken answered most next
      rcases BusyDevice.accepts_cases answered with
        ⟨_, error, refused⟩ | ⟨there, some, sent, moves, least, same⟩
      · omega
      · refine ⟨trivial, ⟨next, ?_⟩, ?_⟩
        · rw [acceptedCount_concat, WriteEvent.accepted,
            Int.toNat_natCast, List.length_append,
            List.length_singleton, BusyDevice.moved, moves,
            TransferAnswer.count]
          omega
        · rw [Buffer.advance_size most]
          omega
    · intro full
      refine ⟨rfl, ?_⟩
      rw [asks.2.accepted, full]
    · intro ret answered
      rcases BusyDevice.accepts_cases answered with
        ⟨negative, _⟩ | ⟨there, _, sent, _, least, rfl⟩
      · omega
      · omega
  · exact ⟨asksFrom_start, (Nat.zero_min _).symm⟩

/-- While the call goes on, every one of its system calls is served. -/
theorem write_keeps_served (buffer : ConstBuffer) :
    (write fd buffer).Keeps (writeKernel fd device.accepts)
      (fun _ => True)
      (fun _ _ events =>
        device.Served events.length ∧
          acceptedCount events ≤ device.moved events.length)
      (fun outcome _ events =>
        outcome = .returned () → device.Served events.length ∧
          acceptedCount events ≤ device.moved events.length) := by
  rintro cursor _ events ⟨served, count⟩
  apply upholds_write trivial
  · intro _ ret events' replied
    rcases replied rfl with ⟨answered, rfl⟩
    refine ⟨trivial, fun _ => ?_, fun nonneg => ?_⟩
    · rintro ⟨⟩
    · rcases BusyDevice.accepts_cases answered with
        ⟨failed, _⟩ | ⟨there, some, sent, moves, least, rfl⟩
      · exact absurd failed nonneg
      · rcases served.next moves with ⟨served', moved⟩
        simp only [Routine.Loop.afterRound, List.length_append,
          List.length_singleton, acceptedCount_concat,
          WriteEvent.accepted, Int.toNat_natCast, moved]
        exact ⟨served', by omega⟩
  · intro _ _
    exact ⟨served, count⟩

/-- A call that sends the whole buffer finds the device ready for it. -/
theorem write_ready_of_ends
    {buffer : ConstBuffer}
    (ends :
      (write fd buffer).Ends (writeKernel fd device.accepts)
        (SentAll memory buffer) ⟨(write fd buffer).entry, (), []⟩) :
    device.ReadyFor buffer.size := by
  rcases
      ends.run_sustaining
        ((write_keeps_served buffer).sustains
          ⟨device.served_zero, Nat.zero_le _⟩) with
    ⟨outcome, _, events, ⟨returned, sent⟩, sustained⟩
  rcases sustained returned with ⟨served, count⟩
  apply BusyDevice.readyFor_of_served served
  rw [← length_acceptedBytes memory, sent,
    ByteMemory.length_slice] at count
  exact count

end Stream

/-! ## Reading -/

/-- The call has returned, and its buffer holds the bytes in order. -/
def FilledAll (memory : ByteMemory) (buffer : MutableBuffer) :
    Outcome Exception Unit → Unit → Intake → Prop :=
  fun outcome _ intake =>
    outcome = .returned () ∧
      intake.memory =
        memory.overwrite buffer.data (receivedBytes intake.events) ∧
      (receivedBytes intake.events).length = buffer.size

namespace Stream

variable
    {fd : Int} {memory : ByteMemory} {device : BusyDevice}

theorem readAll_ends_of_ready
    {buffer : MutableBuffer} (narrow : device.IntSized buffer.size)
    (ready : device.ReadyFor buffer.size) :
    (readAll fd buffer).Ends (readKernel fd device.hands)
      (FilledAll memory buffer)
      ⟨(readAll fd buffer).entry, (), ⟨memory, []⟩⟩ := by
  apply Routine.Loop.ends_of_measure (device.read_total fd)
    (fun (cursor : MutableBuffer) _ intake =>
      FillsFrom device.hands memory buffer cursor intake ∧
        (receivedBytes intake.events).length =
          min (device.moved intake.events.length) buffer.size)
    (fun (cursor : MutableBuffer) _ => cursor.size)
  · rintro cursor _ intake ⟨filled, count⟩
    have size := filled.size
    apply filled.upholds_readAll trivial
    · intro remains _ _ refused _
      rcases BusyDevice.refused_of_hands refused with ⟨error, refused⟩
      have full := ready _ _ refused
      omega
    · intro remains bytes most may next
      rcases BusyDevice.moves_of_hands may with
        ⟨there, some, moves, least⟩
      have small := narrow intake.events.length
      rw [moves, TransferAnswer.count] at small
      refine ⟨by omega, trivial, ⟨next, ?_⟩, ?_⟩
      · simp only [Intake.record, receivedBytes_concat, ReadEvent.bytes,
          List.length_append, List.length_singleton,
          BusyDevice.moved, moves, TransferAnswer.count]
        omega
      · rw [Buffer.advance_size most]
        omega
    · intro full
      exact ⟨rfl, filled.2.stored, full⟩
  · exact ⟨fillsFrom_start, (Nat.zero_min _).symm⟩

/-- While the call goes on, every one of its system calls is served. -/
theorem readAll_keeps_served (buffer : MutableBuffer) :
    (readAll fd buffer).Keeps (readKernel fd device.hands)
      (fun _ => True)
      (fun _ _ intake =>
        device.Served intake.events.length ∧
          (receivedBytes intake.events).length ≤
            device.moved intake.events.length)
      (fun outcome _ intake =>
        outcome = .returned () → device.Served intake.events.length ∧
          (receivedBytes intake.events).length ≤
            device.moved intake.events.length) := by
  rintro cursor _ intake ⟨served, count⟩
  apply upholds_readAll trivial
  · intro _ ret intake' replied
    refine ⟨trivial, fun _ => ?_, fun nonneg => ?_⟩
    · rintro ⟨⟩
    · rcases replied rfl with
        ⟨failed, _⟩ | ⟨bytes, most, rfl, may, rfl⟩
      · exact absurd failed nonneg
      · rcases BusyDevice.moves_of_hands may with
          ⟨there, some, moves, least⟩
        rcases served.next moves with ⟨served', moved⟩
        simp only [Routine.Loop.afterRound, Intake.record,
          receivedBytes_concat, ReadEvent.bytes, List.length_append,
          List.length_singleton, moved]
        exact ⟨served', by omega⟩
  · intro _ _
    exact ⟨served, count⟩

/-- A call that fills the whole buffer finds the device ready for it. -/
theorem readAll_ready_of_ends
    {buffer : MutableBuffer}
    (ends :
      (readAll fd buffer).Ends (readKernel fd device.hands)
        (FilledAll memory buffer)
        ⟨(readAll fd buffer).entry, (), ⟨memory, []⟩⟩) :
    device.ReadyFor buffer.size := by
  rcases
      ends.run_sustaining
        ((readAll_keeps_served buffer).sustains
          ⟨device.served_zero, Nat.zero_le _⟩) with
    ⟨outcome, _, intake, ⟨returned, _, full⟩, sustained⟩
  rcases sustained returned with ⟨served, count⟩
  apply BusyDevice.readyFor_of_served served
  rw [full] at count
  exact count

end Stream

/-! ## Both classes -/

namespace StreamPort

/--
A call of `write` returns with its whole buffer sent, and a call of `read_all`
with its whole buffer filled, exactly if no system call finds the device not
ready before all bytes have moved.  For `read_all` this presumes that no read
hands out more bytes than an `int` can count.
-/
theorem transfers_all_iff_ready
    (port : StreamPort) (memory : ByteMemory) (buffer : Buffer)
    (device : BusyDevice) :
    ((port.write buffer).Ends (writeKernel port.fd device.accepts)
          (SentAll memory buffer) ⟨(port.write buffer).entry, (), []⟩ ↔
        device.ReadyFor buffer.size) ∧
      ((port.perform (.readAll buffer)).Ends
          (readKernel port.fd device.hands) (FilledAll memory buffer)
          ⟨(port.perform (.readAll buffer)).entry, (), ⟨memory, []⟩⟩ →
        device.ReadyFor buffer.size) ∧
      (device.IntSized buffer.size → device.ReadyFor buffer.size →
        (port.perform (.readAll buffer)).Ends
          (readKernel port.fd device.hands) (FilledAll memory buffer)
          ⟨(port.perform (.readAll buffer)).entry, (), ⟨memory, []⟩⟩) := by
  rw [port.write_eq, port.perform_readAll]
  exact
    ⟨⟨Stream.write_ready_of_ends, Stream.write_ends_of_ready⟩,
      Stream.readAll_ready_of_ends, Stream.readAll_ends_of_ready⟩

end StreamPort

/-- A buffer of two bytes. -/
def twoBytes : Buffer := ⟨0, 2, by decide⟩

/-- A device that always moves one byte transfers two of them. -/
theorem steady_transfers :
    ((StreamPort.serial ⟨3⟩).write twoBytes).Ends
        (writeKernel 3
          (BusyDevice.accepts fun _ => .moves 1 Nat.one_pos))
        (SentAll (fun _ => 7) twoBytes)
        ⟨((StreamPort.serial ⟨3⟩).write twoBytes).entry, (), []⟩ ∧
      ((StreamPort.serial ⟨3⟩).perform (.readAll twoBytes)).Ends
        (readKernel 3
          (BusyDevice.hands fun _ => .moves 1 Nat.one_pos))
        (FilledAll (fun _ => 0) twoBytes)
        ⟨((StreamPort.serial ⟨3⟩).perform (.readAll twoBytes)).entry, (),
          ⟨fun _ => 0, []⟩⟩ := by
  have ready :
      BusyDevice.ReadyFor (fun _ => .moves 1 Nat.one_pos)
        twoBytes.size := by
    rintro n error ⟨⟩
  have narrow :
      BusyDevice.IntSized (fun _ => .moves 1 Nat.one_pos)
        twoBytes.size := by
    intro n
    change min 1 2 < 2 ^ 31
    decide
  exact
    ⟨(StreamPort.transfers_all_iff_ready (.serial ⟨3⟩) (fun _ => 7)
        twoBytes _).1.mpr ready,
      (StreamPort.transfers_all_iff_ready (.serial ⟨3⟩) (fun _ => 0)
        twoBytes _).2.2 narrow ready⟩

/-- A device that is not ready between two bytes. -/
def briefPause : BusyDevice := fun n =>
  if n = 1 then .notReady .again else .moves 1 Nat.one_pos

/--
A device that moves two bytes, but is not ready between them: neither `write`
nor `read_all` comes to its end with both.
-/
theorem pause_ends_transfers :
    briefPause.moved 3 = 2 ∧
      ¬ ((StreamPort.serial ⟨3⟩).write twoBytes).Ends
        (writeKernel 3 briefPause.accepts)
        (SentAll (fun _ => 7) twoBytes)
        ⟨((StreamPort.serial ⟨3⟩).write twoBytes).entry, (), []⟩ ∧
      ¬ ((StreamPort.serial ⟨3⟩).perform (.readAll twoBytes)).Ends
        (readKernel 3 briefPause.hands)
        (FilledAll (fun _ => 0) twoBytes)
        ⟨((StreamPort.serial ⟨3⟩).perform (.readAll twoBytes)).entry, (),
          ⟨fun _ => 0, []⟩⟩ := by
  have early : ¬ briefPause.ReadyFor twoBytes.size := by
    intro ready
    have full := ready 1 .again rfl
    exact absurd full (by decide)
  exact
    ⟨by decide, fun sent => early (Stream.write_ready_of_ends sent),
      fun filled => early (Stream.readAll_ready_of_ends filled)⟩

end Periphery
