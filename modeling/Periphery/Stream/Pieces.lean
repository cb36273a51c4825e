import Mathlib.Data.List.Forall2
import Periphery.Stream.Expression
import Periphery.Stream.Line

/-!
# Buffers that are sent in pieces

A client that has a large object sends it piece by piece: it writes the front
of a buffer, moves the buffer, and so on.  However it cuts the buffer, what
goes out is what one call for the whole buffer would have sent.
-/

namespace Periphery

variable {port : StreamPort}

/--
A write of a piece returned, and when it did the object was made of these
bytes.
-/
def Wrote (extent : Buffer) (object : List Byte) (piece : Expression)
    (ended : PortEnded port) : Prop :=
  ∃ state, ended = ⟨.write piece.buffer, .returned (), state⟩ ∧
    extent.bytes state.memory = object

/-- What was sent by writes of pieces of one object. -/
theorem sentBy_wrote
    {room : Nat} (narrow : room < 2 ^ 31) {memory : ByteMemory}
    {situation : Routine.Situation (@PortCall.perform port) Terminal}
    (run : OnLine room port memory situation) {extent : Buffer}
    {object : List Byte} {pieces : List Expression}
    {written : List (PortEnded port)}
    (wrote : List.Forall₂ (Wrote extent object) pieces written)
    (happened : ∀ ended ∈ written, ended ∈ situation.ended)
    (parts : ∀ piece ∈ pieces, piece.extent = extent) :
    sentBy written = pieces.flatMap fun piece => piece.select object := by
  induction wrote with
  | nil => rfl
  | @cons piece ended pieces written first _ induction =>
      rcases first with ⟨state, rfl, same⟩
      have sent := run.wrote narrow (happened _ List.mem_cons_self)
      have bytes := piece.bytes_buffer state.memory
      rw [parts piece List.mem_cons_self, same] at bytes
      rw [sentBy, List.flatMap_cons, List.flatMap_cons]
      congr 1
      · exact sent.trans bytes
      · exact
          induction
            (fun ended member =>
              happened ended (List.mem_cons_of_mem _ member))
            (fun piece member =>
              parts piece (List.mem_cons_of_mem _ member))

/--
In every run on a terminal: once the writes of all pieces of a buffer have
returned, and the client left the object alone meanwhile, the terminal has
taken what was sent before and then the bytes that the buffer selects from
the object, whatever the sizes of the pieces.
-/
theorem pieces_send_the_whole
    {room : Nat} (narrow : room < 2 ^ 31) {memory : ByteMemory}
    {situation : Routine.Situation (@PortCall.perform port) Terminal}
    (run : OnLine room port memory situation)
    (idle : situation.pending = none)
    {earlier written : List (PortEnded port)}
    (history : situation.ended = earlier ++ written)
    (b : Expression) (sizes : List Nat) (object : List Byte)
    (wrote :
      List.Forall₂ (Wrote b.extent object) (b.pieces sizes) written) :
    situation.state.transmitted ++ situation.state.outgoing =
      sentBy earlier ++ b.select object := by
  have sent := run.sent narrow
  have whole :=
    sentBy_wrote narrow run wrote
      (fun ended member => by
        rw [history]
        exact List.mem_append_right _ member)
      (fun piece member => Expression.extent_of_mem_pieces member)
  rw [Expression.flatMap_select_pieces] at whole
  rw [sent, history, sending, idle, ← whole, sentBy, List.flatMap_append,
    List.append_nil]
  rfl

/-- A terminal with room may take a whole buffer at once. -/
theorem OnLine.writes_at_once
    {room : Nat} {memory : ByteMemory} {ended : List (PortEnded thirdPort)}
    {terminal : Terminal}
    (run : OnLine room thirdPort memory ⟨ended, none, (), terminal⟩)
    {buf : ConstBuffer} (nonempty : buf.size > 0)
    (fits : terminal.outgoing.length + buf.size ≤ room) :
    OnLine room thirdPort memory
      ⟨ended ++
          [⟨.write buf, .returned (),
            terminal.settled.take buf.data buf.size⟩],
        none, (), terminal.settled.take buf.data buf.size⟩ := by
  have taken :
      Terminal.running room 3 terminal.settled
        (.write 3 buf.data buf.size) (buf.size : Int)
        (terminal.settled.take buf.data buf.size) :=
    ⟨_, _, .refl, .inr ⟨rfl, _, Nat.le_refl _, fits, rfl, rfl⟩, .refl⟩
  have advances :
      (Stream.write 3 buf).Advances (Terminal.running room 3)
        (Stream.write 3 buf).entry () terminal.settled
        (.done (.inl (buf.advance buf.size))) ()
        (terminal.settled.take buf.data buf.size) := by
    have bound := buf.fits
    rw [← @toSizeT_natCast buf.size (by omega)]
    refine
      .of_call (buf.size : Int) (Stream.write_body 3 buf nonempty) ?_
        (if_neg (Int.not_lt.mpr (Int.natCast_nonneg _)))
    rw [toSizeT_natCast (by omega)]
    exact taken
  have left :
      (Stream.write 3 buf).body (buf.advance buf.size) =
        .done (.inr ()) := by
    apply Routine.Loop.whileDo_body_of_false
    rw [Buffer.advance_size (Nat.le_refl _), Nat.sub_self]
    rfl
  have ends :
      Routine.Loop.Point.outcome
          ⟨(Stream.write 3 buf).body (buf.advance buf.size), (),
            terminal.settled.take buf.data buf.size⟩ =
        some (.returned ()) := by
    rw [left]
    rfl
  have begun :
      OnLine room thirdPort memory
        ⟨ended, some ⟨.write buf, (Stream.write 3 buf).entry⟩, (),
          terminal.settled⟩ :=
    run.tail (.begins rfl ⟨terminal.memory, rfl⟩)
  exact
    ((begun.tail (.advances rfl advances)).tail
      (.advances rfl .around)).tail (.ends rfl ends)

/-! ## A vector in two pieces -/

/-- A terminal that waits, with two bytes in the client's memory. -/
def beforeElements : Terminal :=
  .idle fun address => if address = 16 then 7 else 8

def firstTaken : Terminal := beforeElements.settled.take 16 1
def bothTaken : Terminal := firstTaken.settled.take 17 1

theorem twoElements_written :
    OnLine 4096 thirdPort beforeElements.memory
      ⟨[⟨.write frontElement.buffer, .returned (), firstTaken⟩,
          ⟨.write backElement.buffer, .returned (), bothTaken⟩],
        none, (), bothTaken⟩ := by
  have begun :
      OnLine 4096 thirdPort beforeElements.memory
        ⟨[], none, (), beforeElements⟩ :=
    .refl
  have first :=
    @OnLine.writes_at_once _ _ _ _ begun frontElement.buffer (by decide)
      (by decide)
  exact
    @OnLine.writes_at_once _ _ _ _ first backElement.buffer (by decide)
      (by decide)

theorem twoElements_sent :
    bothTaken.transmitted ++ bothTaken.outgoing = [7, 8] := by
  have narrow : 4096 < 2 ^ 31 := by decide
  exact
    @pieces_send_the_whole _ _ narrow _ _ twoElements_written rfl [] _ rfl
      (.storage twoElements) [1] [7, 8]
      (.cons ⟨_, rfl, rfl⟩ (.cons ⟨_, rfl, rfl⟩ .nil))

end Periphery
