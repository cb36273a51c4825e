import Periphery.Bytes.ByteMemory
import Periphery.History
import Periphery.Stream.Port
import Periphery.Stream.Rounds

/-!
# The calls of the filling reads

A device answers the system calls of `read_all` and `read_all_timeout`, and
what it answers may depend on everything that happened before.  The kernel
keeps the calls with their answers, and the caller's memory.

At every moment the bytes handed out lie at the start of the buffer, nothing
else has changed, and every read asked for exactly what was left.
-/

namespace Periphery

/-! ## Calls and answers -/

/-- A system call of a read function with its answer. -/
inductive ReadEvent where
  /-- A `select` that was given a timeout, waited for some microseconds,
  and left the rest of the timeout. -/
  | waited (given : Timeval) (elapsed : Nat) (ret : Int)
      (left : Timeval)
  | failed (data count : Nat)
  | handed (data count : Nat) (bytes : List Byte)
deriving DecidableEq, Repr

/-- The bytes that the device handed out. -/
def ReadEvent.bytes : ReadEvent → List Byte
  | .waited .. => []
  | .failed .. => []
  | .handed _ _ bytes => bytes

/-- The memory after the call: the bytes go to the address it was given. -/
def ReadEvent.store (memory : ByteMemory) : ReadEvent → ByteMemory
  | .waited .. => memory
  | .failed .. => memory
  | .handed data _ bytes => memory.overwrite data bytes

/-- The bytes handed out in all, in order. -/
def receivedBytes (events : List ReadEvent) : List Byte :=
  events.flatMap ReadEvent.bytes

@[simp]
theorem receivedBytes_nil : receivedBytes [] = [] :=
  rfl

@[simp]
theorem receivedBytes_concat
    (events : List ReadEvent) (event : ReadEvent) :
    receivedBytes (events ++ [event]) =
      receivedBytes events ++ event.bytes := by
  simp [receivedBytes]

/-- What may happen next, after the earlier events. -/
abbrev ReadDevice := List ReadEvent → ReadEvent → Prop

/-- The most bytes that Linux hands out in one `read`. -/
def maxRead : Nat := 0x7ffff000

/-- A device that keeps to the limit of Linux. -/
def ReadDevice.Limited (device : ReadDevice) : Prop :=
  ∀ earlier data count bytes,
    device earlier (.handed data count bytes) → bytes.length ≤ maxRead

/-- The caller's memory, and the calls made so far. -/
structure Intake where
  memory : ByteMemory
  events : List ReadEvent

def Intake.record (intake : Intake) (event : ReadEvent) : Intake where
  memory := event.store intake.memory
  events := intake.events ++ [event]

theorem Intake.events_record_ne_nil
    (intake : Intake) (event : ReadEvent) :
    (intake.record event).events ≠ [] :=
  List.append_ne_nil_of_right_ne_nil _ (List.cons_ne_nil _ _)

/--
The kernel of the descriptor `fd`, with `device` behind it.  A read hands out
at most the count asked for.  Nothing is known of any other call.
-/
def readKernel (fd : Int) (device : ReadDevice) : Kernel posix Intake :=
  fun intake request answer intake' =>
    match request, answer with
    | .select target given, (ret, left) =>
        target = fd →
          ∃ elapsed,
            device intake.events (.waited given elapsed ret left) ∧
              intake' = intake.record (.waited given elapsed ret left)
    | .read target data count, ret =>
        target = fd →
          ret < 0 ∧ device intake.events (.failed data count) ∧
              intake' = intake.record (.failed data count) ∨
            ∃ bytes : List Byte,
              bytes.length ≤ count ∧ ret = bytes.length ∧
                device intake.events (.handed data count bytes) ∧
                intake' = intake.record (.handed data count bytes)
    | _, _ => True

theorem readKernel_total
    {fd : Int} {device : ReadDevice}
    (waits : ∀ earlier given, ∃ elapsed ret left,
      device earlier (.waited given elapsed ret left))
    (reads : ∀ earlier data count,
      device earlier (.failed data count) ∨
        ∃ bytes : List Byte, bytes.length ≤ count ∧
          device earlier (.handed data count bytes)) :
    (readKernel fd device).Total := by
  intro intake request
  cases request with
  | select target given =>
      rcases waits intake.events given with ⟨elapsed, ret, left, may⟩
      exact ⟨(ret, left), _, fun _ => ⟨elapsed, may, rfl⟩⟩
  | read target data count =>
      rcases reads intake.events data count with
        may | ⟨bytes, most, may⟩
      · have negative : (-1 : Int) < 0 := by decide
        exact ⟨(-1 : Int), _, fun _ => .inl ⟨negative, may, rfl⟩⟩
      · exact
          ⟨(bytes.length : Int), _,
            fun _ => .inr ⟨bytes, most, rfl, may, rfl⟩⟩
  | _ => exact ⟨default, intake, trivial⟩

/-- Something that a device with some bytes may hand out. -/
theorem exists_bytes (there count : Nat) :
    ∃ bytes : List Byte, bytes.length ≤ count ∧
      bytes.length = min there count := by
  refine ⟨List.replicate (min there count) 0, ?_, List.length_replicate⟩
  rw [List.length_replicate]
  exact Nat.min_le_right _ _

/-! ## The invariant -/

/-- The call asks for exactly what is left of the buffer. -/
def ReadEvent.Asks (buffer : MutableBuffer)
    (earlier : List ReadEvent) : ReadEvent → Prop
  | .waited .. => True
  | .failed data count =>
      data = buffer.data + (receivedBytes earlier).length ∧
        count = buffer.size - (receivedBytes earlier).length
  | .handed data count bytes =>
      data = buffer.data + (receivedBytes earlier).length ∧
        count = buffer.size - (receivedBytes earlier).length ∧
        bytes.length ≤ count

/--
The bytes handed out lie at the start of the buffer and nothing else has
changed; every read asked for what was left, and every answer was one that
the device may give.
-/
structure FillsInOrder (device : ReadDevice) (memory : ByteMemory)
    (buffer : MutableBuffer) (intake : Intake) : Prop where
  stored :
    intake.memory =
      memory.overwrite buffer.data (receivedBytes intake.events)
  within : (receivedBytes intake.events).length ≤ buffer.size
  asked : History.Every (ReadEvent.Asks buffer) intake.events
  allowed : History.Every device intake.events

section Invariant

variable
    {device : ReadDevice} {memory : ByteMemory}
    {buffer : MutableBuffer} {intake : Intake}

theorem fillsInOrder_start :
    FillsInOrder device memory buffer ⟨memory, []⟩ where
  stored := (ByteMemory.overwrite_nil _ _).symm
  within := Nat.zero_le _
  asked := History.every_nil _
  allowed := History.every_nil _

theorem FillsInOrder.record
    (fills : FillsInOrder device memory buffer intake)
    {event : ReadEvent} (asks : event.Asks buffer intake.events)
    (may : device intake.events event) :
    FillsInOrder device memory buffer (intake.record event) := by
  have within := fills.within
  have stored :
      event.store intake.memory =
        memory.overwrite buffer.data
          (receivedBytes intake.events ++ event.bytes) := by
    cases event with
    | waited given elapsed ret left =>
        exact fills.stored.trans (by rw [ReadEvent.bytes, List.append_nil])
    | failed data count =>
        exact fills.stored.trans (by rw [ReadEvent.bytes, List.append_nil])
    | handed data count bytes =>
        rcases asks with ⟨rfl, _, _⟩
        rw [ReadEvent.store, ReadEvent.bytes, fills.stored,
          ByteMemory.overwrite_append]
  have most :
      (receivedBytes intake.events).length + event.bytes.length ≤
        buffer.size := by
    cases event with
    | waited given elapsed ret left => exact within
    | failed data count => exact within
    | handed data count bytes =>
        rcases asks with ⟨_, rfl, most⟩
        rw [ReadEvent.bytes]
        omega
  constructor
  · rw [Intake.record, receivedBytes_concat]
    exact stored
  · rw [Intake.record, receivedBytes_concat, List.length_append]
    exact most
  · exact History.every_concat fills.asked asks
  · exact History.every_concat fills.allowed may

/-- A device that may do more. -/
theorem FillsInOrder.mono
    {device' : ReadDevice}
    (fills : FillsInOrder device memory buffer intake)
    (implies : ∀ earlier event,
      device earlier event → device' earlier event) :
    FillsInOrder device' memory buffer intake where
  stored := fills.stored
  within := fills.within
  asked := fills.asked
  allowed := fun earlier event before =>
    implies earlier event (fills.allowed earlier event before)

/-- The cursor stands behind the bytes handed out. -/
def FillsFrom (device : ReadDevice) (memory : ByteMemory)
    (buffer cursor : MutableBuffer) (intake : Intake) : Prop :=
  cursor = buffer.advance (receivedBytes intake.events).length ∧
    FillsInOrder device memory buffer intake

theorem fillsFrom_start :
    FillsFrom device memory buffer buffer ⟨memory, []⟩ :=
  ⟨(Buffer.advance_zero buffer).symm, fillsInOrder_start⟩

theorem FillsFrom.record
    {cursor : MutableBuffer}
    (filled : FillsFrom device memory buffer cursor intake)
    (event : ReadEvent)
    (asks : event.Asks buffer intake.events)
    (may : device intake.events event) :
    FillsFrom device memory buffer (cursor.advance event.bytes.length)
      (intake.record event) := by
  rcases filled with ⟨rfl, fills⟩
  refine ⟨?_, fills.record asks may⟩
  rw [Buffer.advance_advance, Intake.record, receivedBytes_concat,
    List.length_append]

theorem FillsFrom.size
    {cursor : MutableBuffer}
    (filled : FillsFrom device memory buffer cursor intake) :
    cursor.size + (receivedBytes intake.events).length =
      buffer.size := by
  rcases filled with ⟨rfl, fills⟩
  have within := fills.within
  rw [Buffer.advance_size within]
  omega

/-- What an answer to a read at the cursor is and leaves. -/
theorem FillsFrom.read
    {fd : Int} {cursor : MutableBuffer}
    (filled : FillsFrom device memory buffer cursor intake)
    {ret : Int} {intake' : Intake}
    (replied :
      readKernel fd device intake
        (.read fd cursor.data cursor.size) ret intake') :
    (ret < 0 ∧ FillsFrom device memory buffer cursor intake' ∧
        ∃ data count, device intake.events (.failed data count) ∧
          intake' = intake.record (.failed data count)) ∨
      ∃ bytes : List Byte,
        bytes.length ≤ cursor.size ∧ ret = bytes.length ∧
          device intake.events
            (.handed cursor.data cursor.size bytes) ∧
          intake' =
            intake.record (.handed cursor.data cursor.size bytes) ∧
          FillsFrom device memory buffer (cursor.advance bytes.length)
            intake' := by
  have place :
      cursor.data =
          buffer.data + (receivedBytes intake.events).length ∧
        cursor.size =
          buffer.size - (receivedBytes intake.events).length := by
    rcases filled with ⟨rfl, fills⟩
    exact
      ⟨Buffer.advance_data fills.within,
        Buffer.advance_size fills.within⟩
  rcases replied rfl with
    ⟨failed, may, rfl⟩ | ⟨bytes, most, rfl, may, rfl⟩
  · have next := filled.record (.failed _ _) place may
    rw [ReadEvent.bytes, List.length_nil, Buffer.advance_zero] at next
    exact .inl ⟨failed, next, _, _, may, rfl⟩
  · exact
      .inr
        ⟨bytes, most, rfl, may, rfl,
          filled.record (.handed _ _ _)
            ⟨place.1, place.2, most⟩ may⟩

/-- What an answer to a wait leaves. -/
theorem FillsFrom.wait
    {fd : Int} {cursor : MutableBuffer}
    (filled : FillsFrom device memory buffer cursor intake)
    {tv left : Timeval} {ret : Int} {intake' : Intake}
    (replied :
      readKernel fd device intake (.select fd tv) (ret, left) intake') :
    ∃ elapsed,
      intake' = intake.record (.waited tv elapsed ret left) ∧
        FillsFrom device memory buffer cursor intake' := by
  rcases replied rfl with ⟨elapsed, may, rfl⟩
  have next := filled.record (.waited tv elapsed ret left) trivial may
  rw [ReadEvent.bytes, List.length_nil, Buffer.advance_zero] at next
  exact ⟨elapsed, rfl, next⟩

/-- A round of `read_all` with the cursor behind the bytes handed out. -/
theorem FillsFrom.upholds_readAll
    {fd : Int} {cursor : MutableBuffer} {during : Intake → Prop}
    {post :
      Outcome Exception (MutableBuffer ⊕ Unit) → Unit → Intake → Prop}
    (filled : FillsFrom device memory buffer cursor intake)
    (now : during intake)
    (failed : cursor.size > 0 → ∀ data count,
      device intake.events (.failed data count) →
      FillsFrom device memory buffer cursor
          (intake.record (.failed data count)) →
        during (intake.record (.failed data count)) ∧
          post (.threw badAddress) ()
            (intake.record (.failed data count)))
    (handed : cursor.size > 0 → ∀ bytes : List Byte,
      bytes.length ≤ cursor.size →
      device intake.events (.handed cursor.data cursor.size bytes) →
      FillsFrom device memory buffer (cursor.advance bytes.length)
          (intake.record (.handed cursor.data cursor.size bytes)) →
        bytes.length < 2 ^ 31 ∧
          during
            (intake.record (.handed cursor.data cursor.size bytes)) ∧
          post (.returned (.inl (cursor.advance bytes.length))) ()
            (intake.record (.handed cursor.data cursor.size bytes)))
    (full : (receivedBytes intake.events).length = buffer.size →
      post (.returned (.inr ())) () intake) :
    ((Stream.readAll fd buffer).body cursor).Upholds
      (readKernel fd device) during post () intake := by
  apply Stream.upholds_readAll now
  · intro remains ret intake' replied
    rcases filled.read replied with
      ⟨negative, next, data, count, may, rfl⟩ |
        ⟨bytes, most, rfl, may, rfl, next⟩
    · rcases failed remains data count may next with ⟨now', threw⟩
      exact
        ⟨now', fun _ => threw, fun nonneg => absurd negative nonneg⟩
    · rcases handed remains bytes most may next with
        ⟨small, now', moved⟩
      refine ⟨now', fun negative => absurd negative (by omega), ?_⟩
      intro _
      rw [toInt_of_bounded (by omega) (by omega),
        toSizeT_natCast (by omega)]
      exact moved
  · intro empty
    have size := filled.size
    exact full (by omega)

end Invariant

end Periphery
