import Mathlib.Algebra.GroupWithZero.Nat
import Periphery.Bytes.ByteMemory
import Periphery.History
import Periphery.Stream.Port
import Periphery.Stream.Rounds

/-!
# The calls of `write`

The kernel answers each system call of `write` with an error or with the
number of bytes it accepted, and what it answers may depend on everything
that happened before.  It keeps the calls with their answers.

At every moment the accepted bytes are the first bytes of the buffer, and
every call was given exactly what was left of it.
-/

namespace Periphery

/-! ## Calls and answers -/

/-- A system call `write` with its answer. -/
structure WriteEvent where
  data : Nat
  count : Nat
  ret : Int
deriving DecidableEq, Repr

/-- The number of bytes that the call moved; an error moves none. -/
def WriteEvent.accepted (event : WriteEvent) : Nat := event.ret.toNat

/-- The number of bytes accepted in all. -/
def acceptedCount (events : List WriteEvent) : Nat :=
  (events.map WriteEvent.accepted).sum

/-- The accepted bytes, in the order of the calls. -/
def acceptedBytes (memory : ByteMemory) (events : List WriteEvent) :
    List Byte :=
  events.flatMap fun event => memory.slice event.data event.accepted

/-- The answers a kernel may give after the earlier calls. -/
abbrev WriteAnswers := List WriteEvent → Nat → Int → Prop

/--
The kernel of the descriptor `fd`, with the calls made so far.  Nothing is
known of any other call.
-/
def writeKernel (fd : Int) (answers : WriteAnswers) :
    Kernel posix (List WriteEvent) :=
  fun events request answer events' =>
    match request, answer with
    | .write target data count, ret =>
        target = fd →
          answers events count ret ∧
            events' = events ++ [⟨data, count, ret⟩]
    | _, _ => True

theorem writeKernel_total
    {fd : Int} {answers : WriteAnswers}
    (answered : ∀ events count, ∃ ret, answers events count ret) :
    (writeKernel fd answers).Total := by
  intro events request
  cases request with
  | write target data count =>
      rcases answered events count with ⟨ret, may⟩
      exact ⟨ret, events ++ [⟨data, count, ret⟩], fun _ => ⟨may, rfl⟩⟩
  | _ => exact ⟨default, events, trivial⟩

/-- An error, or a count between zero and the count given. -/
def anyAnswer : WriteAnswers := fun _ count ret =>
  ret < 0 ∨ 0 ≤ ret ∧ ret ≤ count

/-- A count up to the count given, and zero only where zero is given. -/
def positiveAnswer : WriteAnswers := fun _ count ret =>
  (0 < ret ∨ count = 0) ∧ 0 ≤ ret ∧ ret ≤ count

@[simp]
theorem acceptedCount_concat (events : List WriteEvent) (event : WriteEvent) :
    acceptedCount (events ++ [event]) = acceptedCount events + event.accepted := by
  simp [acceptedCount]

@[simp]
theorem acceptedBytes_concat
    (memory : ByteMemory) (events : List WriteEvent)
    (event : WriteEvent) :
    acceptedBytes memory (events ++ [event]) =
      acceptedBytes memory events ++
        memory.slice event.data event.accepted := by
  simp [acceptedBytes]

theorem length_acceptedBytes
    (memory : ByteMemory) (events : List WriteEvent) :
    (acceptedBytes memory events).length = acceptedCount events := by
  simp [acceptedBytes, acceptedCount, List.length_flatMap]

/-! ## The invariant -/

/-- The call is given the part of the buffer that is not yet accepted. -/
def WriteEvent.Asks (buffer : ConstBuffer) (earlier : List WriteEvent)
    (event : WriteEvent) : Prop :=
  event.data = buffer.data + acceptedCount earlier ∧
    event.count = buffer.size - acceptedCount earlier ∧ 0 < event.count

/--
Every call asked for the rest of the buffer, and the accepted bytes are the
first bytes of the buffer.
-/
structure SendsInOrder (memory : ByteMemory) (buffer : ConstBuffer)
    (events : List WriteEvent) : Prop where
  asked : History.Every (WriteEvent.Asks buffer) events
  accepted :
    acceptedBytes memory events =
      memory.slice buffer.data (acceptedCount events)
  within : acceptedCount events ≤ buffer.size

theorem sendsInOrder_nil (memory : ByteMemory) (buffer : ConstBuffer) :
    SendsInOrder memory buffer [] where
  asked := History.every_nil _
  accepted := rfl
  within := Nat.zero_le _

/-- A call with what is left of the buffer, and any answer to it. -/
theorem SendsInOrder.concat
    {memory : ByteMemory} {buffer : ConstBuffer}
    {events : List WriteEvent}
    (sends : SendsInOrder memory buffer events)
    (remains : (buffer.advance (acceptedCount events)).size > 0)
    {ret : Int}
    (most : ret ≤ (buffer.advance (acceptedCount events)).size) :
    SendsInOrder memory buffer
      (events ++
        [⟨(buffer.advance (acceptedCount events)).data,
          (buffer.advance (acceptedCount events)).size, ret⟩]) := by
  rw [Buffer.advance_data sends.within]
  rw [Buffer.advance_size sends.within] at *
  constructor
  · exact History.every_concat sends.asked ⟨rfl, rfl, remains⟩
  · rw [acceptedBytes_concat, sends.accepted, acceptedCount_concat,
      ByteMemory.slice_add]
  · rw [acceptedCount_concat, WriteEvent.accepted]
    have within := sends.within
    dsimp only
    omega

/-- How a call of `write` may end. -/
def EndsWriting (buffer : ConstBuffer) :
    Outcome Exception Unit → List WriteEvent → Prop
  | .returned _, events => acceptedCount events = buffer.size
  | .threw error, events =>
      error = badAddress ∧
        ∃ earlier event, events = earlier ++ [event] ∧ event.ret < 0

/-- At the head of the loop, the cursor stands behind what was accepted. -/
def AsksFrom (memory : ByteMemory) (buffer cursor : ConstBuffer)
    (_ : Unit) (events : List WriteEvent) : Prop :=
  cursor = buffer.advance (acceptedCount events) ∧
    SendsInOrder memory buffer events

section Rounds

variable
    {memory : ByteMemory} {buffer cursor : ConstBuffer}
    {events : List WriteEvent}

theorem asksFrom_start : AsksFrom memory buffer buffer () [] :=
  ⟨(Buffer.advance_zero buffer).symm, sendsInOrder_nil _ _⟩

theorem AsksFrom.size (asks : AsksFrom memory buffer cursor () events) :
    cursor.size + acceptedCount events = buffer.size := by
  rcases asks with ⟨rfl, sends⟩
  have within := sends.within
  rw [Buffer.advance_size within]
  omega

/-- A call at the cursor that accepts some bytes. -/
theorem AsksFrom.concat
    (asks : AsksFrom memory buffer cursor () events)
    (remains : cursor.size > 0) {taken : Nat}
    (most : taken ≤ cursor.size) :
    AsksFrom memory buffer (cursor.advance taken) ()
      (events ++ [⟨cursor.data, cursor.size, taken⟩]) := by
  rcases asks with ⟨rfl, sends⟩
  refine ⟨?_, sends.concat remains (Int.ofNat_le.mpr most)⟩
  rw [Buffer.advance_advance, acceptedCount_concat, WriteEvent.accepted,
    Int.toNat_natCast]

/-- A round of `write` with the cursor behind the bytes accepted. -/
theorem AsksFrom.upholds_write
    {fd : Int} {answers : WriteAnswers}
    {during : List WriteEvent → Prop}
    {post :
      Outcome Exception (ConstBuffer ⊕ Unit) → Unit →
        List WriteEvent → Prop}
    (asks : AsksFrom memory buffer cursor () events)
    (bounded : ∀ ret, answers events cursor.size ret →
      ret ≤ cursor.size)
    (now : during events)
    (failed : cursor.size > 0 → ∀ ret,
      answers events cursor.size ret → ret < 0 →
      SendsInOrder memory buffer
          (events ++ [⟨cursor.data, cursor.size, ret⟩]) →
        during (events ++ [⟨cursor.data, cursor.size, ret⟩]) ∧
          post (.threw badAddress) ()
            (events ++ [⟨cursor.data, cursor.size, ret⟩]))
    (accepted : cursor.size > 0 → ∀ taken : Nat,
      answers events cursor.size taken → taken ≤ cursor.size →
      AsksFrom memory buffer (cursor.advance taken) ()
          (events ++ [⟨cursor.data, cursor.size, taken⟩]) →
        during (events ++ [⟨cursor.data, cursor.size, taken⟩]) ∧
          post (.returned (.inl (cursor.advance taken))) ()
            (events ++ [⟨cursor.data, cursor.size, taken⟩]))
    (full : acceptedCount events = buffer.size →
      post (.returned (.inr ())) () events) :
    ((Stream.write fd buffer).body cursor).Upholds
      (writeKernel fd answers) during post () events := by
  apply Stream.upholds_write now
  · intro remains ret events' replied
    rcases replied rfl with ⟨answered, rfl⟩
    have most := bounded ret answered
    by_cases negative : ret < 0
    · have sends :
          SendsInOrder memory buffer
            (events ++ [⟨cursor.data, cursor.size, ret⟩]) := by
        rcases asks with ⟨rfl, sends⟩
        exact sends.concat remains most
      rcases failed remains ret answered negative sends with
        ⟨now', threw⟩
      exact
        ⟨now', fun _ => threw, fun nonneg => absurd negative nonneg⟩
    · obtain ⟨taken, rfl⟩ :=
        Int.eq_ofNat_of_zero_le (Int.not_lt.mp negative)
      have fits := cursor.fits
      have most : taken ≤ cursor.size := Int.ofNat_le.mp most
      rcases accepted remains taken answered most
          (asks.concat remains most) with
        ⟨now', moved⟩
      refine ⟨now', fun failed => absurd failed negative, fun _ => ?_⟩
      rw [toSizeT_natCast (by omega)]
      exact moved
  · intro empty
    have size := asks.size
    exact full (by omega)

end Rounds

theorem Stream.write_keeps_order
    (fd : Int) (memory : ByteMemory) (buffer : ConstBuffer) :
    (write fd buffer).Keeps (writeKernel fd anyAnswer)
      (SendsInOrder memory buffer) (AsksFrom memory buffer)
      (fun outcome _ => EndsWriting buffer outcome) := by
  intro cursor _ events asks
  apply asks.upholds_write _ asks.2
  · exact fun _ _ _ negative sends =>
      ⟨sends, rfl, events, _, rfl, negative⟩
  · exact fun _ _ _ _ next => ⟨next.2, next⟩
  · exact id
  · rintro ret (negative | ⟨_, most⟩)
    · omega
    · exact most

/-! ## Calls that accept something -/

/--
If every call accepts at least one byte, then `write` ends, and the number of
its calls is at most the number of bytes it sent.
-/
theorem Stream.write_ends
    (fd : Int) (buffer : ConstBuffer) :
    (write fd buffer).Ends (writeKernel fd positiveAnswer)
      (fun outcome _ events =>
        outcome = .returned () ∧ acceptedCount events = buffer.size ∧
          events.length ≤ buffer.size)
      ⟨(write fd buffer).entry, (), []⟩ := by
  have total : (writeKernel fd positiveAnswer).Total :=
    writeKernel_total fun _ count => ⟨count, by omega, by omega, by omega⟩
  apply Routine.Loop.ends_of_measure total
    (fun (cursor : ConstBuffer) _ events =>
      AsksFrom (fun _ => 0) buffer cursor () events ∧
        events.length ≤ acceptedCount events)
    (fun (cursor : ConstBuffer) _ => cursor.size)
  · rintro cursor _ events ⟨asks, calls⟩
    have size := asks.size
    apply asks.upholds_write (fun _ answered => answered.2.2) trivial
    · rintro _ ret ⟨_, least, _⟩ negative _
      omega
    · rintro remains taken ⟨some, _, _⟩ most next
      refine ⟨trivial, ⟨next, ?_⟩, ?_⟩
      · rw [List.length_append, List.length_singleton,
          acceptedCount_concat, WriteEvent.accepted, Int.toNat_natCast]
        omega
      · rw [Buffer.advance_size most]
        omega
    · exact fun full => ⟨rfl, full, by omega⟩
  · exact ⟨asksFrom_start, Nat.le_refl 0⟩

theorem Stream.write_entry_of_empty
    (fd : Int) {buffer : ConstBuffer} (empty : buffer.size = 0) :
    (write fd buffer).entry = .done (.inr ()) := by
  have nothing : ¬ buffer.size > 0 := by omega
  exact Routine.Loop.whileDo_body_of_false (decide_eq_false nothing)

/-! ## Both classes -/

namespace StreamPort

/--
At every moment of a call of `write`, each system call was given the part of
the buffer that was not yet accepted, and the accepted bytes are the first
bytes of the buffer; the call returns only when the whole buffer is accepted
and throws only right after an error.  If every call accepts something, it
returns after at most one call for each byte; an empty buffer makes no call.
-/
theorem write_sends_prefix
    (port : StreamPort) (memory : ByteMemory) (buffer : ConstBuffer) :
    (∀ point : (port.write buffer).Point (List WriteEvent),
      (port.write buffer).Reaches (writeKernel port.fd anyAnswer)
          () [] point →
        SendsInOrder memory buffer point.state ∧
          ∀ outcome, point.outcome = some outcome →
            EndsWriting buffer outcome point.state) ∧
    (port.write buffer).Ends (writeKernel port.fd positiveAnswer)
      (fun outcome _ events =>
        outcome = .returned () ∧ acceptedCount events = buffer.size ∧
          events.length ≤ buffer.size)
      ⟨(port.write buffer).entry, (), []⟩ ∧
    (buffer.size = 0 →
      (port.write buffer).entry = .done (.inr ())) := by
  rw [port.write_eq]
  refine ⟨fun point reaches => ?_, ?_, ?_⟩
  · have sustains :=
      (Stream.write_keeps_order port.fd memory buffer).sustains
        asksFrom_start
    exact sustains.throughout reaches
  · exact Stream.write_ends _ _
  · exact Stream.write_entry_of_empty _

end StreamPort

end Periphery
