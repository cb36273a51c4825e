import Periphery.Stream.Reading

/-!
# What the filling reads store

Whatever the device answers, `read_all_timeout` stores exactly the bytes it
was handed out, in order and from the start of its buffer, and counts them.
So does `read_all` as long as no read hands out more than an `int` can count:
it learns the count of a read from `read`, which returns an `int`.
-/

namespace Periphery

/-- No read hands out more bytes than an `int` can count. -/
def ReadDevice.Narrow (device : ReadDevice) : Prop :=
  ∀ earlier data count bytes,
    device earlier (.handed data count bytes) → bytes.length < 2 ^ 31

theorem ReadDevice.Limited.narrow
    {device : ReadDevice} (limited : device.Limited) : device.Narrow := by
  intro earlier data count bytes may
  have bounded := limited earlier data count bytes may
  rw [maxRead] at bounded
  omega

/-- A call of `read_all` returns only with its buffer full. -/
def EndsFull (buffer : MutableBuffer) :
    Outcome Exception Unit → Unit → Intake → Prop
  | .returned _, _, intake =>
      (receivedBytes intake.events).length = buffer.size
  | .threw _, _, _ => True

/--
A call of `read_all_timeout` returns the number of bytes handed out, as an
`int`.  It is less than the size of the buffer only if the last wait timed
out.
-/
def EndsCounting (buffer : MutableBuffer) :
    Outcome Exception Int → Unit → Intake → Prop
  | .returned value, _, intake =>
      value = toInt (receivedBytes intake.events).length ∧
      ((receivedBytes intake.events).length < buffer.size →
        ∃ earlier given elapsed left,
          intake.events = earlier ++ [.waited given elapsed 0 left])
  | .threw _, _, _ => True

namespace Stream

variable {fd : Int} {device : ReadDevice} {memory : ByteMemory}

theorem readAll_keeps_filling
    (narrow : device.Narrow) (buffer : MutableBuffer) :
    (readAll fd buffer).Keeps (readKernel fd device)
      (FillsInOrder device memory buffer)
      (fun cursor _ => FillsFrom device memory buffer cursor)
      (EndsFull buffer) := by
  intro cursor _ intake filled
  apply filled.upholds_readAll filled.2
  · exact fun _ _ _ _ next => ⟨next.2, trivial⟩
  · exact fun _ bytes _ may next =>
      ⟨narrow _ _ _ bytes may, next.2, next⟩
  · exact id

/--
The loop of `read_all_timeout`.  It returns only with its buffer full or
after a wait that timed out.
-/
theorem readAllTimeout_keeps_filling
    (buffer : MutableBuffer) (timeout : Int)
    {left : Outcome Exception Int → Unit → Intake → Prop}
    (threw : ∀ error intake, left (.threw error) () intake)
    (counts : ∀ cursor intake,
      FillsFrom device memory buffer cursor intake →
      ((receivedBytes intake.events).length < buffer.size →
        ∃ earlier given elapsed rest,
          intake.events = earlier ++ [.waited given elapsed 0 rest]) →
        left (.returned (bytesStored buffer cursor)) () intake) :
    (readAllTimeout fd buffer timeout).Keeps (readKernel fd device)
      (FillsInOrder device memory buffer)
      (fun cursor _ => FillsFrom device memory buffer cursor.1)
      left := by
  rintro ⟨cursor, tv⟩ _ intake filled
  have reads : ∀ rest intake',
      FillsFrom device memory buffer cursor intake' →
      AfterWait (readKernel fd device)
        (FillsInOrder device memory buffer) fd buffer cursor rest
        (Routine.Loop.afterRound
          (fun cursor : MutableBuffer × Timeval => fun _ =>
            FillsFrom device memory buffer cursor.1)
          left)
        intake' := by
    intro rest intake' filled ret intake'' replied
    rcases filled.read replied with
      ⟨failed, next, _⟩ | ⟨bytes, most, rfl, may, rfl, next⟩
    · exact
        ⟨next.2, fun _ => threw _ _,
          fun returned => absurd failed returned⟩
    · have fits := cursor.fits
      rw [toSizeT_natCast (by omega)]
      refine ⟨next.2, fun failed => absurd failed (by omega), fun _ => ?_⟩
      refine ⟨fun _ => next, fun done => counts _ _ next ?_⟩
      intro short
      have size := Buffer.advance_size next.2.within
      rw [← next.1] at size
      omega
  apply upholds_readAllTimeout filled.2
  · intro _ ret rest intake' replied
    rcases filled.wait replied with ⟨elapsed, rfl, next⟩
    refine ⟨next.2, fun _ => threw _ _, ?_, fun _ => reads rest _ next⟩
    rintro rfl
    exact counts _ _ next fun _ => ⟨_, _, _, _, rfl⟩
  · intro _
    exact reads tv intake filled

/-- The count is that of the bytes handed out, as an `int`. -/
theorem bytesStored_eq
    {buffer cursor : MutableBuffer} {intake : Intake}
    (filled : FillsFrom device memory buffer cursor intake) :
    bytesStored buffer cursor =
      toInt (receivedBytes intake.events).length := by
  have size := filled.size
  have fits := buffer.fits
  have difference :
      (buffer.size : Int) - cursor.size =
        (receivedBytes intake.events).length := by
    omega
  rw [bytesStored, difference, toSizeT_natCast (by omega)]

end Stream

/-! ## Both classes -/

namespace StreamPort

theorem readAll_fills
    (port : StreamPort) (memory : ByteMemory) (buffer : MutableBuffer)
    {device : ReadDevice} (narrow : device.Narrow)
    {point : (port.perform (.readAll buffer)).Point Intake}
    (reaches :
      (port.perform (.readAll buffer)).Reaches
        (readKernel port.fd device) () ⟨memory, []⟩ point) :
    FillsInOrder device memory buffer point.state ∧
      ∀ outcome, point.outcome = some outcome →
        EndsFull buffer outcome point.fields point.state := by
  have sustains :
      (port.perform (.readAll buffer)).Sustains
        (readKernel port.fd device)
        (FillsInOrder device memory buffer) (EndsFull buffer)
        (port.perform (.readAll buffer)).entry () ⟨memory, []⟩ := by
    rw [port.perform_readAll]
    exact
      (Stream.readAll_keeps_filling narrow buffer).sustains
        fillsFrom_start
  exact sustains.throughout reaches

theorem readAllTimeout_fills
    (port : StreamPort) (memory : ByteMemory) (buffer : MutableBuffer)
    (timeout : Int) {device : ReadDevice}
    {point : (port.perform (.readAllTimeout buffer timeout)).Point
      Intake}
    (reaches :
      (port.perform (.readAllTimeout buffer timeout)).Reaches
        (readKernel port.fd device) () ⟨memory, []⟩ point) :
    FillsInOrder device memory buffer point.state ∧
      ∀ outcome, point.outcome = some outcome →
        EndsCounting buffer outcome point.fields point.state := by
  have sustains :
      (port.perform (.readAllTimeout buffer timeout)).Sustains
        (readKernel port.fd device)
        (FillsInOrder device memory buffer) (EndsCounting buffer)
        (port.perform (.readAllTimeout buffer timeout)).entry ()
        ⟨memory, []⟩ := by
    rw [port.perform_readAllTimeout]
    exact
      (Stream.readAllTimeout_keeps_filling buffer timeout
        (fun _ _ => trivial)
        (fun _ _ filled short =>
          ⟨Stream.bytesStored_eq filled, short⟩)).sustains
        fillsFrom_start
  exact sustains.throughout reaches

/--
At every moment of a call of `read_all` or `read_all_timeout`, the bytes
handed out lie at the start of the buffer, nothing else has changed, and
every read asked for what was left; `read_all` returns only with the buffer
full, and `read_all_timeout` counts the bytes handed out.
-/
theorem filling_reads_store
    (port : StreamPort) (memory : ByteMemory) (buffer : MutableBuffer)
    (device : ReadDevice) :
    (device.Narrow →
      ∀ point : (port.perform (.readAll buffer)).Point Intake,
        (port.perform (.readAll buffer)).Reaches
            (readKernel port.fd device) () ⟨memory, []⟩ point →
          FillsInOrder device memory buffer point.state ∧
            ∀ outcome, point.outcome = some outcome →
              EndsFull buffer outcome point.fields point.state) ∧
    ∀ timeout : Int,
      ∀ point : (port.perform (.readAllTimeout buffer timeout)).Point
          Intake,
        (port.perform (.readAllTimeout buffer timeout)).Reaches
            (readKernel port.fd device) () ⟨memory, []⟩ point →
          FillsInOrder device memory buffer point.state ∧
            ∀ outcome, point.outcome = some outcome →
              EndsCounting buffer outcome point.fields point.state :=
  ⟨fun narrow _ reaches => port.readAll_fills memory buffer narrow reaches,
    fun timeout _ reaches =>
      port.readAllTimeout_fills memory buffer timeout reaches⟩

end StreamPort

/-! ## One read -/

/-- The device hands out these bytes in one read, and no others. -/
def handsOut (bytes : List Byte) : ReadDevice := fun _ event =>
  event.bytes = bytes

/-- A read of `read_all` in which the device hands out `bytes`. -/
theorem Stream.readAll_hands
    (fd : Int) (buffer : MutableBuffer) {device : ReadDevice}
    {cursor : MutableBuffer} {intake : Intake} {bytes : List Byte}
    (remains : cursor.size > 0)
    (most : bytes.length ≤ cursor.size)
    (may :
      device intake.events (.handed cursor.data cursor.size bytes)) :
    (readAll fd buffer).Advances (readKernel fd device)
      ((readAll fd buffer).body cursor) () intake
      (.done
        (.inl (cursor.advance (toSizeT (toInt bytes.length))))) ()
      (intake.record (.handed cursor.data cursor.size bytes)) := by
  have answered :
      readKernel fd device intake
        (.read fd cursor.data cursor.size) (bytes.length : Int)
        (intake.record (.handed cursor.data cursor.size bytes)) :=
    fun _ => .inr ⟨bytes, most, rfl, may, rfl⟩
  exact
    .of_call (bytes.length : Int) (readAll_body fd buffer remains)
      answered (if_neg (Int.not_lt.mpr (Int.natCast_nonneg _)))

/-- The first round of `read_all`, in which the device hands out `bytes`. -/
theorem Stream.readAll_reaches_round
    (fd : Int) (memory : ByteMemory) {buffer : MutableBuffer}
    {device : ReadDevice} {bytes : List Byte}
    (remains : buffer.size > 0)
    (most : bytes.length ≤ buffer.size)
    (may : device [] (.handed buffer.data buffer.size bytes)) :
    (readAll fd buffer).Reaches (readKernel fd device) () ⟨memory, []⟩
      ⟨(readAll fd buffer).body
          (buffer.advance (toSizeT (toInt bytes.length))),
        (),
        Intake.record ⟨memory, []⟩
          (.handed buffer.data buffer.size bytes)⟩ :=
  (Routine.Loop.Reaches.start.advances
    (readAll_hands fd buffer remains most may)).advances .around

/-- A buffer of one byte is full after one read of one byte. -/
theorem byte_filled :
    ∃ point : ((StreamPort.serial ⟨3⟩).perform
        (.readAll ⟨0, 1, by decide⟩)).Point Intake,
      point.outcome = some (.returned ()) ∧
        FillsInOrder (handsOut [7]) (fun _ => 0) ⟨0, 1, by decide⟩
          point.state ∧
        EndsFull ⟨0, 1, by decide⟩ (.returned ()) point.fields
          point.state := by
  have narrow : (handsOut [7]).Narrow := by
    rintro earlier data count bytes rfl
    decide
  have filled :=
    (StreamPort.filling_reads_store (.serial ⟨3⟩) (fun _ => 0)
        ⟨0, 1, by decide⟩ (handsOut [7])).1 narrow _
      (Stream.readAll_reaches_round 3 (fun _ => 0) (by decide)
        (by decide) rfl)
  exact ⟨_, rfl, filled.1, filled.2 _ rfl⟩

/-- The buffer of the next counterexample. -/
def longBuffer : MutableBuffer := ⟨0, 2 ^ 31 + 1, by decide⟩

/-- A count that is negative as an `int` moves the cursor to the end. -/
theorem Stream.readAll_returns_short
    {bytes : List Byte} (length : bytes.length = 2 ^ 31) :
    ∃ point : (readAll 3 longBuffer).Point Intake,
      (readAll 3 longBuffer).Reaches (readKernel 3 (handsOut bytes)) ()
          ⟨fun _ => 0, []⟩ point ∧
        point.outcome = some (.returned ()) ∧
        (receivedBytes point.state.events).length = 2 ^ 31 := by
  have reaches :=
    @readAll_reaches_round 3 (fun _ => 0) longBuffer (handsOut bytes)
      bytes (by decide) (by rw [length]; decide) rfl
  have returns :
      (readAll 3 longBuffer).body
          (longBuffer.advance (toSizeT (toInt (2 ^ 31 : Nat)))) =
        .done (.inr ()) :=
    Routine.Loop.whileDo_body_of_false (by decide)
  rw [length, returns] at reaches
  refine ⟨_, reaches, rfl, ?_⟩
  rw [Intake.record, receivedBytes_concat, receivedBytes_nil,
    ReadEvent.bytes, List.nil_append, length]

/--
A read of `2 ^ 31` bytes is negative as an `int`, and `read_all` returns with
a byte of its buffer missing.
-/
theorem long_read_not_filled :
    ∃ (bytes : List Byte)
      (point : ((StreamPort.serial ⟨3⟩).perform
        (.readAll longBuffer)).Point Intake),
      ((StreamPort.serial ⟨3⟩).perform (.readAll longBuffer)).Reaches
          (readKernel 3 (handsOut bytes)) () ⟨fun _ => 0, []⟩ point ∧
        point.outcome = some (.returned ()) ∧
        ¬ EndsFull longBuffer (.returned ()) point.fields
          point.state := by
  rcases
      Stream.readAll_returns_short
        (@List.length_replicate Byte (2 ^ 31) 0) with
    ⟨point, reaches, returned, short⟩
  refine ⟨_, point, reaches, returned, fun full => ?_⟩
  have same : 2 ^ 31 = longBuffer.size := short.symm.trans full
  exact absurd same (by decide)

end Periphery
