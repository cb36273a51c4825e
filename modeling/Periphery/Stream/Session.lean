import Mathlib.Logic.Relation
import Periphery.Stream.Endpoint
import Periphery.Stream.Port

/-!
# Sessions over a channel

One end of a byte channel calls `write` and the other end calls the read
functions.  The system calls of the two ends are interleaved in any order,
and each moves some bytes: `write` appends a prefix of what it is given to
the bytes in flight, and `read` takes a prefix of the bytes in flight.

At every moment, what the reader's calls have stored, what is in flight and
what the writer has still to send make up what was passed to `write`.
-/

namespace Periphery

/-! ## The ends -/

namespace ReadCall

/-- The counts of the system calls: `limit` bounds those of `read_all`. -/
def Allows (limit : Nat) (call : ReadCall) (count : Nat) : Prop :=
  match call with
  | .readAll _ => count ≤ limit
  | _ => True

end ReadCall

namespace StreamPort

/-- A call of `write` sends its buffer from the start. -/
theorem write_sustains
    (port : StreamPort) (memory : ByteMemory) (buffer : ConstBuffer) :
    (port.write buffer).Sustains (outletKernel port.fd)
      (SendsPrefix memory buffer) (SendsAll memory buffer)
      (port.write buffer).entry () ⟨memory, []⟩ := by
  have start : SendsFrom memory buffer buffer () ⟨memory, []⟩ :=
    ⟨0, Nat.zero_le _, (Buffer.advance_zero buffer).symm, rfl⟩
  cases port with
  | serial object => exact (Stream.write_keeps _ _ _).sustains start
  | characterDevice object =>
      exact (Stream.write_keeps _ _ _).sustains start

/-- A call of a read function stores what it was handed out. -/
theorem perform_sustains
    {limit : Nat} (narrow : limit < 2 ^ 31)
    (port : StreamPort) (call : ReadCall) (memory : ByteMemory) :
    (port.perform call).Sustains
      (inletKernel port.fd (call.Allows limit)) (Stores call.buffer)
      anyEnd (port.perform call).entry () ⟨memory, []⟩ := by
  have start : StoresFrom call.buffer call.buffer ⟨memory, []⟩ :=
    ⟨(Buffer.advance_zero _).symm, Nat.zero_le _, rfl⟩
  have small : ∀ count ≤ limit, count < 2 ^ 31 := by
    intro count most
    omega
  cases port <;> cases call
  case serial.read | characterDevice.read =>
    exact Routine.Loop.sustains_once (Stream.read_upholds start)
  case serial.readAll | characterDevice.readAll =>
    exact (Stream.readAll_keeps small).sustains start
  case serial.readTimeout | characterDevice.readTimeout =>
    exact
      Routine.Loop.sustains_once (Stream.readTimeout_upholds start _)
  case serial.readAllTimeout | characterDevice.readAllTimeout =>
    exact (Stream.readAllTimeout_keeps _).sustains start

end StreamPort

/-! ## Sessions -/

/-- A call of `write`: its buffer and the memory behind it. -/
structure WriteCall where
  memory : ByteMemory
  buffer : ConstBuffer

/-- The bytes passed to the call. -/
def WriteCall.bytes (call : WriteCall) : List Byte :=
  call.memory.slice call.buffer.data call.buffer.size

/-- A call of `write` that goes on. -/
structure Writing (port : StreamPort) where
  call : WriteCall
  outlet : Outlet
  rest : (port.write call.buffer).Rest

/-- A call of a read function that goes on. -/
structure Reading (port : StreamPort) where
  call : ReadCall
  inlet : Inlet
  rest : (port.perform call).Rest

/-- A call of a read function that returned, with the memory it left. -/
structure ReadRecord where
  call : ReadCall
  inlet : Inlet

/-- The bytes that a call has stored, as they lie in its buffer. -/
def storedBytes (call : ReadCall) (inlet : Inlet) : List Byte :=
  inlet.memory.slice call.buffer.data inlet.received.length

/-- The state of a session between two steps. -/
structure StreamSession (writer reader : StreamPort) where
  /-- The calls of `write` that have not begun. -/
  later : List WriteCall
  writing : Option (Writing writer)
  inFlight : List Byte
  reading : Option (Reading reader)
  finished : List ReadRecord

namespace StreamSession

variable {writer reader : StreamPort}

/-- The session before the first call. -/
def start (writer reader : StreamPort) (calls : List WriteCall) :
    StreamSession writer reader where
  later := calls
  writing := none
  inFlight := []
  reading := none
  finished := []

/-- What the writer's current and later calls have still to send. -/
def toSend (session : StreamSession writer reader) : List Byte :=
  (session.writing.elim [] fun writing =>
      writing.call.bytes.drop writing.outlet.accepted.length) ++
    session.later.flatMap WriteCall.bytes

/-- What the reader's calls have stored. -/
def stored (session : StreamSession writer reader) : List Byte :=
  (session.finished.flatMap fun record =>
      storedBytes record.call record.inlet) ++
    session.reading.elim [] fun reading =>
      storedBytes reading.call reading.inlet

/--
One step: an end begins a call, executes a part of it up to and including
one system call, or returns from it.
-/
inductive Step (limit : Nat)
    (session : StreamSession writer reader) :
    StreamSession writer reader → Prop where
  | writeBegins {call : WriteCall} {later : List WriteCall}
      (idle : session.writing = none)
      (next : session.later = call :: later) :
      Step limit session
        { session with
          later := later
          writing :=
            some
              ⟨call, ⟨call.memory, []⟩,
                (writer.write call.buffer).entry⟩ }
  | writes {call : WriteCall} {outlet outlet' : Outlet}
      {rest rest' : (writer.write call.buffer).Rest}
      {bytes : List Byte}
      (busy : session.writing = some ⟨call, outlet, rest⟩)
      (advances :
        (writer.write call.buffer).Advances (outletKernel writer.fd)
          rest () outlet rest' () outlet')
      (taken : outlet'.accepted = outlet.accepted ++ bytes) :
      Step limit session
        { session with
          writing := some ⟨call, outlet', rest'⟩
          inFlight := session.inFlight ++ bytes }
  | writeReturns {call : WriteCall} {outlet : Outlet}
      (busy : session.writing = some ⟨call, outlet, .done (.inr ())⟩) :
      Step limit session { session with writing := none }
  | readBegins {call : ReadCall} {memory : ByteMemory}
      (idle : session.reading = none) :
      Step limit session
        { session with
          reading :=
            some
              ⟨call, ⟨memory, []⟩, (reader.perform call).entry⟩ }
  | reads {call : ReadCall} {inlet inlet' : Inlet}
      {rest rest' : (reader.perform call).Rest}
      {bytes inFlight : List Byte}
      (busy : session.reading = some ⟨call, inlet, rest⟩)
      (advances :
        (reader.perform call).Advances
          (inletKernel reader.fd (call.Allows limit))
          rest () inlet rest' () inlet')
      (handed : inlet'.received = inlet.received ++ bytes)
      (front : session.inFlight = bytes ++ inFlight) :
      Step limit session
        { session with
          inFlight := inFlight
          reading := some ⟨call, inlet', rest'⟩ }
  | readReturns {call : ReadCall} {inlet : Inlet} {value : call.Value}
      (busy :
        session.reading = some ⟨call, inlet, .done (.inr value)⟩) :
      Step limit session
        { session with
          reading := none
          finished := session.finished ++ [⟨call, inlet⟩] }

/-! ## Conservation -/

/--
Every call in progress upholds the invariant of its loop, and no byte was
lost, duplicated or moved.
-/
structure Sound (limit : Nat) (calls : List WriteCall)
    (session : StreamSession writer reader) : Prop where
  writes : ∀ writing, session.writing = some writing →
    (writer.write writing.call.buffer).Sustains
      (outletKernel writer.fd)
      (SendsPrefix writing.call.memory writing.call.buffer)
      (SendsAll writing.call.memory writing.call.buffer)
      writing.rest () writing.outlet
  reads : ∀ reading, session.reading = some reading →
    (reader.perform reading.call).Sustains
      (inletKernel reader.fd (reading.call.Allows limit))
      (Stores reading.call.buffer) anyEnd
      reading.rest () reading.inlet
  conserved :
    session.stored ++ session.inFlight ++ session.toSend =
      calls.flatMap WriteCall.bytes

theorem start_sound (limit : Nat) (calls : List WriteCall) :
    (start writer reader calls).Sound limit calls where
  writes := nofun
  reads := nofun
  conserved := by simp [start, stored, toSend]

/-- What was taken and what is left make up the buffer. -/
theorem accepted_append_drop
    {call : WriteCall} {outlet : Outlet}
    (sends : SendsPrefix call.memory call.buffer outlet) :
    outlet.accepted ++ call.bytes.drop outlet.accepted.length =
      call.bytes := by
  rcases sends with ⟨count, within, rfl⟩
  have taken :
      (sent call.memory call.buffer count).accepted =
        call.bytes.take count :=
    (ByteMemory.take_slice _ _ _ _ within).symm
  rw [taken, List.length_take, WriteCall.bytes,
    ByteMemory.length_slice, Nat.min_eq_left within,
    List.take_append_drop]

theorem storedBytes_eq
    {call : ReadCall} {inlet : Inlet}
    (stores : Stores call.buffer inlet) :
    storedBytes call inlet = inlet.received :=
  stores.2

/-- Bytes that a system call takes go from the buffer into the channel. -/
theorem toSend_writes
    {session : StreamSession writer reader}
    {call : WriteCall} {outlet outlet' : Outlet}
    {rest rest' : (writer.write call.buffer).Rest}
    {bytes inFlight : List Byte}
    (busy : session.writing = some ⟨call, outlet, rest⟩)
    (sends : SendsPrefix call.memory call.buffer outlet)
    (sends' : SendsPrefix call.memory call.buffer outlet')
    (taken : outlet'.accepted = outlet.accepted ++ bytes) :
    session.toSend =
      bytes ++
        toSend
          { session with
            writing := some ⟨call, outlet', rest'⟩
            inFlight := inFlight } := by
  have left :
      call.bytes.drop outlet.accepted.length =
        bytes ++ call.bytes.drop outlet'.accepted.length := by
    have same :
        outlet.accepted ++ call.bytes.drop outlet.accepted.length =
          outlet.accepted ++
            (bytes ++ call.bytes.drop outlet'.accepted.length) := by
      rw [accepted_append_drop sends, ← List.append_assoc, ← taken,
        accepted_append_drop sends']
    exact List.append_cancel_left same
  simp only [toSend, busy, Option.elim_some, left, List.append_assoc]

theorem Sound.step
    {limit : Nat} (narrow : limit < 2 ^ 31) {calls : List WriteCall}
    {session after : StreamSession writer reader}
    (sound : session.Sound limit calls)
    (step : session.Step limit after) : after.Sound limit calls := by
  have conserved := sound.conserved
  cases step with
  | @writeBegins call later idle next =>
      refine ⟨?_, sound.reads, ?_⟩
      · rintro _ ⟨rfl⟩
        exact writer.write_sustains _ _
      · rw [← conserved]
        simp [stored, toSend, idle, next]
  | @writes call outlet outlet' rest rest' bytes busy advances taken =>
      have sustains := sound.writes _ busy
      have sustains' := sustains.advances advances
      refine ⟨?_, sound.reads, ?_⟩
      · rintro _ ⟨rfl⟩
        exact sustains'
      · rw [toSend_writes busy sustains.now sustains'.now taken]
          at conserved
        simpa [stored] using conserved
  | @writeReturns call outlet busy =>
      obtain rfl :
          outlet = sent call.memory call.buffer call.buffer.size :=
        (sound.writes _ busy).leaves
      refine ⟨?_, sound.reads, ?_⟩
      · rintro _ ⟨⟩
      · rw [← conserved]
        simp [stored, toSend, busy, sent, WriteCall.bytes]
  | @readBegins call memory idle =>
      refine ⟨sound.writes, ?_, ?_⟩
      · rintro _ ⟨rfl⟩
        exact reader.perform_sustains narrow _ _
      · rw [← conserved]
        simp [stored, toSend, idle, storedBytes]
  | @reads call inlet inlet' rest rest' bytes inFlight busy advances
      handed front =>
      have sustains := sound.reads _ busy
      have sustains' := sustains.advances advances
      refine ⟨sound.writes, ?_, ?_⟩
      · rintro _ ⟨rfl⟩
        exact sustains'
      · rw [← conserved]
        simp [stored, toSend, busy, front, storedBytes_eq sustains.now,
          storedBytes_eq sustains'.now, handed]
  | @readReturns call inlet value busy =>
      refine ⟨sound.writes, ?_, ?_⟩
      · rintro _ ⟨⟩
      · rw [← conserved]
        simp [stored, toSend, busy]

/--
While no read of `read_all` hands out more than an `int` can count, a
session neither loses, duplicates nor moves a byte.
-/
theorem conserves_bytes
    {limit : Nat} (narrow : limit < 2 ^ 31) {calls : List WriteCall}
    {session : StreamSession writer reader}
    (run :
      Relation.ReflTransGen (Step limit) (start writer reader calls)
        session) :
    session.stored ++ session.inFlight ++ session.toSend =
      calls.flatMap WriteCall.bytes := by
  have sound : session.Sound limit calls := by
    induction run with
    | refl => exact start_sound limit calls
    | tail _ step sound => exact sound.step narrow step
  exact sound.conserved

/-- A call that sends the byte one and then `count` zeros. -/
def burst (count : Nat) (fits : count + 1 < 2 ^ 64) : WriteCall where
  memory address := if address = 0 then 1 else 0
  buffer := ⟨0, count + 1, by omega⟩

/-- The burst was sent at once, and the first read left one byte of it. -/
def burstSession (count : Nat) (fits : count + 1 < 2 ^ 64) :
    StreamSession (.serial ⟨3⟩) (.serial ⟨4⟩) :=
  let call := burst count fits
  { later := []
    writing :=
      some
        ⟨call, sent call.memory call.buffer (count + 1),
          .done
            (.inl (call.buffer.advance (toSizeT (count + 1 : Nat))))⟩
    inFlight := call.memory.slice count 1
    reading :=
      some
        ⟨.readAll call.buffer,
          Inlet.store ⟨fun _ => 0, []⟩ 0 (call.memory.slice 0 count),
          .done
            (.inl (call.buffer.advance (toSizeT (toInt count))))⟩
    finished := [] }

theorem burst_run
    {count limit : Nat} (fits : count + 1 < 2 ^ 64)
    (most : count ≤ limit) :
    Relation.ReflTransGen (Step limit)
      (start (.serial ⟨3⟩) (.serial ⟨4⟩) [burst count fits])
      (burstSession count fits) := by
  let call := burst count fits
  have remains : call.buffer.size > 0 := Nat.succ_pos count
  have writes :=
    Stream.write_advances 3 call.buffer ⟨call.memory, []⟩ remains
      (Nat.le_refl (count + 1))
  have reads :=
    Stream.readAll_advances 4 (· ≤ limit) call.buffer ⟨fun _ => 0, []⟩
      (ByteMemory.length_slice call.memory 0 count) remains
      (Nat.le_succ count) most
  have front :
      [] ++ call.memory.slice 0 (count + 1) =
        call.memory.slice 0 count ++ call.memory.slice count 1 := by
    rw [ByteMemory.slice_add, Nat.zero_add]
    rfl
  have begins :
      Step limit (start (.serial ⟨3⟩) (.serial ⟨4⟩) [call]) _ :=
    .writeBegins rfl rfl
  have sends :=
    (Relation.ReflTransGen.single begins).tail (.writes rfl writes rfl)
  exact (sends.tail (.readBegins rfl)).tail (.reads rfl reads rfl front)

/-- One byte of the burst is stored and the other is in flight. -/
theorem burst_conserved :
    let session := burstSession 1 (by decide)
    session.stored = [1] ∧ session.inFlight = [0] ∧
      session.stored ++ session.inFlight ++ session.toSend =
        [burst 1 (by decide)].flatMap WriteCall.bytes :=
  have narrow : 0x7ffff000 < 2 ^ 31 := by decide
  ⟨rfl, rfl, conserves_bytes narrow (burst_run _ (by decide))⟩

/--
If the count of the first read is zero as an `int`, then the second read
overwrites what the first one stored.
-/
theorem burst_overwritten_of_wraps
    {count limit : Nat} (fits : count + 1 < 2 ^ 64)
    (positive : 0 < count) (most : count ≤ limit)
    (wraps : toSizeT (toInt count) = 0) :
    ∃ session : StreamSession (.serial ⟨3⟩) (.serial ⟨4⟩),
      Relation.ReflTransGen (Step limit)
          (start _ _ [burst count fits]) session ∧
        session.stored ++ session.inFlight ++ session.toSend ≠
          [burst count fits].flatMap WriteCall.bytes := by
  let call := burst count fits
  let first := Inlet.store ⟨fun _ => 0, []⟩ 0 (call.memory.slice 0 count)
  let last := first.store 0 (call.memory.slice count 1)
  have remains : call.buffer.size > 0 := Nat.succ_pos count
  have busy :
      (burstSession count fits).reading =
        some ⟨.readAll call.buffer, first, .done (.inl call.buffer)⟩ := by
    simp only [burstSession, wraps, Buffer.advance_zero]
    rfl
  have reads :=
    Stream.readAll_advances 4 (· ≤ limit) call.buffer first
      (ByteMemory.length_slice call.memory count 1)
      remains remains (Nat.le_trans positive most)
  have run :=
    ((burst_run fits most).tail
      (.reads busy .around (List.append_nil _).symm rfl)).tail
      (.reads rfl reads rfl (List.append_nil _).symm)
  obtain ⟨session, run, stored⟩ :
      ∃ session : StreamSession (.serial ⟨3⟩) (.serial ⟨4⟩),
        Relation.ReflTransGen (Step limit) (start _ _ [call]) session ∧
          session.stored = storedBytes (.readAll call.buffer) last :=
    ⟨_, run, rfl⟩
  have length : last.received.length = count + 1 := by
    simp [last, first, Inlet.store]
  have overwritten : last.memory 0 = 0 := by
    have different : count ≠ 0 := by omega
    simp [last, Inlet.store, ByteMemory.overwrite, ByteMemory.slice,
      call, burst, different]
  refine ⟨session, run, fun conserved => ?_⟩
  have heads := congrArg List.head? conserved
  have sent :
      [call].flatMap WriteCall.bytes =
        call.memory.slice 0 (count + 1) :=
    List.append_nil _
  rw [sent, stored, storedBytes, length, List.append_assoc,
    List.head?_append, ByteMemory.head?_slice_succ,
    ByteMemory.head?_slice_succ] at heads
  have differs : (0 : Byte) ≠ 1 := by decide
  exact differs (overwritten.symm.trans (Option.some.inj heads))

/-- A read of `2 ^ 32` bytes counts as none, and the next one overwrites it. -/
theorem burst_overwritten :
    ∃ session : StreamSession (.serial ⟨3⟩) (.serial ⟨4⟩),
      Relation.ReflTransGen (Step (2 ^ 63 - 1))
          (start _ _ [burst (2 ^ 32) (by decide)]) session ∧
        session.stored ++ session.inFlight ++ session.toSend ≠
          [burst (2 ^ 32) (by decide)].flatMap WriteCall.bytes :=
  burst_overwritten_of_wraps _ (by decide) (by decide) (by decide)

end StreamSession

end Periphery
