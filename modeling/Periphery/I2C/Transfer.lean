import Mathlib.Data.List.Forall2
import Mathlib.Logic.Function.Basic
import Periphery.I2C.Device

/-!
# What a transfer hands to the kernel

The descriptors of a transfer are compared with the messages it was given,
and carried out on a bus that takes every descriptor at its word.  The array
has room for 32 bits of count and each descriptor for 16 bits of length; the
main theorem says that these two bounds are all that stands between the
descriptors and the messages.
-/

namespace Periphery.I2C

/-! ## Messages as their makers left them -/

/--
Messages that `Message::read` (or else `Message::write`) made, with their
public data possibly assigned later.
-/
inductive Message.Made : (reading : Bool) → Message → Prop where
  | write (tx_data : List Byte) : Made false (.write tx_data)
  | read (len : Nat) : Made true (.read len)
  | assigned {reading : Bool} {message : Message}
      (made : Made reading message) (data : List Byte) :
      Made reading { message with data := data }

/-- The flag word that a descriptor of the given kind carries. -/
def readFlag (reading : Bool) : BitVec 16 :=
  if reading then I2C_M_RD else 0

theorem Message.Made.flags_eq
    {reading : Bool} {message : Message}
    (made : message.Made reading) :
    message.flags = readFlag reading := by
  induction made with
  | write tx_data => rfl
  | read len => rfl
  | assigned made data induction => exact induction

/-! ## The bus -/

/-- What happened on the bus for one descriptor. -/
inductive Transaction where
  | sent (addr : BitVec 16) (bytes : List Byte)
  | received (addr : BitVec 16) (message : Nat) (bytes : List Byte)
deriving DecidableEq, Repr

/--
The messages of the caller, the arrays passed to `I2C_RDWR` and the
transactions on the bus.
-/
structure Bus where
  objects : Messages
  arrays : List (List I2cMsg)
  transactions : List Transaction

/-- One descriptor is carried out for exactly its length. -/
def CarriesOut (bus : Bus) (msg : I2cMsg) (bus' : Bus) : Prop :=
  let message := bus.objects msg.buf
  let len := msg.len.toNat
  if msg.flags &&& I2C_M_RD = 0 then
    bus' =
      { bus with
        transactions :=
          bus.transactions ++ [.sent msg.addr (message.data.take len)] }
  else
    ∃ bytes : List Byte, bytes.length = len ∧
      bus' =
        { bus with
          objects :=
            Function.update bus.objects msg.buf
              { message with data := bytes ++ message.data.drop len }
          transactions :=
            bus.transactions ++ [.received msg.addr msg.buf bytes] }

/-- The descriptors of an array are carried out in order. -/
def CarriesOutAll : Bus → List I2cMsg → Bus → Prop
  | bus, [], bus' => bus' = bus
  | bus, msg :: rest, bus' =>
      ∃ middle, CarriesOut bus msg middle ∧
        CarriesOutAll middle rest bus'

/-- The driver: it carries the array out, or it fails in any state. -/
def busKernel : Kernel posix Bus :=
  fun bus request answer bus' =>
    match request, answer with
    | .ioctl _ (.i2cRdwr msgs), error =>
        error < 0 ∧ bus'.arrays = bus.arrays ++ [msgs] ∨
          0 ≤ error ∧
            CarriesOutAll { bus with arrays := bus.arrays ++ [msgs] }
              msgs bus'
    | _, _ => bus' = bus

/-! ## Descriptors and transactions of whole messages -/

/-- The descriptor says what the message is, with nothing cut off. -/
def Describes (objects : Messages) (addr : BitVec 16)
    (reading : Nat → Bool) (message : Nat) (msg : I2cMsg) : Prop :=
  msg.addr = addr ∧ msg.flags = readFlag (reading message) ∧
    msg.len.toNat = (objects message).data.length ∧
    msg.buf = message

/-- The transaction sends the whole message, or receives all of it. -/
def Completes (objects : Messages) (addr : BitVec 16)
    (reading : Nat → Bool) (message : Nat) :
    Transaction → Prop
  | .sent address bytes =>
      reading message = false ∧ address = addr ∧
        bytes = (objects message).data
  | .received address buffer bytes =>
      reading message = true ∧ address = addr ∧ buffer = message ∧
        bytes.length = (objects message).data.length

/-- The message holds what some transaction received for it. -/
def Filled (addr : BitVec 16) (transactions : List Transaction)
    (objects : Messages) (message : Nat) : Prop :=
  .received addr message (objects message).data ∈ transactions

/--
Since `objects`, written messages are as they were and messages read into
have kept their length.
-/
def Agrees (reading : Nat → Bool) (objects objects' : Messages) :
    Prop :=
  ∀ message,
    (reading message = false → objects' message = objects message) ∧
      (objects' message).data.length = (objects message).data.length

theorem Agrees.refl (reading : Nat → Bool) (objects : Messages) :
    Agrees reading objects objects :=
  fun _ => ⟨fun _ => rfl, rfl⟩

/-- All that carrying out a faithful descriptor can do. -/
theorem CarriesOut.cases
    {objects : Messages} {addr : BitVec 16} {reading : Nat → Bool}
    {message : Nat} {msg : I2cMsg} {bus bus' : Bus}
    (describes : Describes objects addr reading message msg)
    (agrees : Agrees reading objects bus.objects)
    (carried : CarriesOut bus msg bus') :
    reading message = false ∧
        bus' =
          { bus with
            transactions :=
              bus.transactions ++
                [.sent addr (objects message).data] } ∨
      reading message = true ∧ ∃ bytes : List Byte,
        bytes.length = (objects message).data.length ∧
          bus' =
            { bus with
              objects :=
                Function.update bus.objects message
                  { bus.objects message with data := bytes }
              transactions :=
                bus.transactions ++ [.received addr message bytes] } := by
  rcases describes with ⟨sameAddr, sameFlags, sameLen, sameBuf⟩
  cases kind : reading message with
  | false =>
      have sending : msg.flags &&& I2C_M_RD = 0 := by
        rw [sameFlags, kind]
        rfl
      simp only [CarriesOut, if_pos sending, sameBuf, sameAddr, sameLen,
        (agrees message).1 kind, List.take_length] at carried
      exact .inl ⟨rfl, carried⟩
  | true =>
      have receiving : ¬ msg.flags &&& I2C_M_RD = 0 := by
        rw [sameFlags, kind]
        decide
      have nothingLeft :
          (bus.objects message).data.drop
            (objects message).data.length = [] := by
        rw [← (agrees message).2, List.drop_length]
      simp only [CarriesOut, if_neg receiving, sameBuf, sameAddr,
        sameLen, nothingLeft, List.append_nil] at carried
      exact .inr ⟨rfl, carried⟩

/-- The bus does not touch the record of the arrays. -/
theorem CarriesOutAll.arrays_eq
    {array : List I2cMsg} {bus bus' : Bus}
    (carried : CarriesOutAll bus array bus') :
    bus'.arrays = bus.arrays := by
  induction array generalizing bus with
  | nil =>
      obtain rfl := carried
      rfl
  | cons msg rest induction =>
      rcases carried with ⟨middle, first, others⟩
      rw [induction others]
      simp only [CarriesOut] at first
      split_ifs at first
      · rw [first]
      · rcases first with ⟨_, _, rfl⟩
        rfl

theorem Agrees.update
    {reading : Nat → Bool} {objects objects' : Messages}
    (agrees : Agrees reading objects objects')
    {message : Nat} (kind : reading message = true)
    {bytes : List Byte}
    (allBytes : bytes.length = (objects message).data.length) :
    Agrees reading objects
      (Function.update objects' message
        { objects' message with data := bytes }) := by
  intro other
  by_cases same : other = message
  · subst same
    rw [Function.update_self]
    refine ⟨fun writing => ?_, allBytes⟩
    cases kind.symm.trans writing
  · rw [Function.update_of_ne same]
    exact agrees other

/--
Carrying out faithful descriptors completes their messages one by one, and
every message read into ends with bytes that were received for it.
-/
theorem CarriesOutAll.completes
    {objects : Messages} {addr : BitVec 16} {reading : Nat → Bool}
    {messages : List Nat} {array : List I2cMsg}
    (describes :
      List.Forall₂ (Describes objects addr reading) messages array)
    {bus bus' : Bus}
    (carried : CarriesOutAll bus array bus')
    (agrees : Agrees reading objects bus.objects) :
    ∃ transactions,
      bus'.transactions = bus.transactions ++ transactions ∧
        List.Forall₂ (Completes objects addr reading)
          messages transactions ∧
        ∀ message,
          (message ∉ messages →
              bus'.objects message = bus.objects message) ∧
            (message ∈ messages → reading message = true →
              Filled addr transactions bus'.objects message) := by
  induction describes generalizing bus with
  | nil =>
      obtain rfl := carried
      exact
        ⟨[], (List.append_nil _).symm, .nil,
          fun _ => ⟨fun _ => rfl, nofun⟩⟩
  | @cons message msg messages array first rest induction =>
      rcases carried with ⟨middle, carriedFirst, carriedRest⟩
      rcases carriedFirst.cases first agrees with
        ⟨kind, rfl⟩ | ⟨kind, bytes, allBytes, rfl⟩
      · rcases induction carriedRest agrees with
          ⟨transactions, happened, complete, ends⟩
        refine
          ⟨.sent addr (objects message).data :: transactions,
            ?_, .cons ⟨kind, rfl, rfl⟩ complete, ?_⟩
        · rw [happened, List.append_assoc, List.singleton_append]
        · intro other
          refine ⟨fun absent => ?_, fun member into => ?_⟩
          · exact (ends other).1 fun later =>
              absent (List.mem_cons_of_mem _ later)
          · rcases List.mem_cons.mp member with rfl | later
            · cases kind.symm.trans into
            · exact List.mem_cons_of_mem _ ((ends other).2 later into)
      · rcases induction carriedRest (agrees.update kind allBytes) with
          ⟨transactions, happened, complete, ends⟩
        refine
          ⟨.received addr message bytes :: transactions,
            ?_, .cons ⟨kind, rfl, rfl, allBytes⟩ complete, ?_⟩
        · rw [happened, List.append_assoc, List.singleton_append]
        · intro other
          refine ⟨fun absent => ?_, fun member into => ?_⟩
          · have different : other ≠ message := by
              rintro rfl
              exact absent List.mem_cons_self
            have notLater : other ∉ messages := fun later =>
              absent (List.mem_cons_of_mem _ later)
            rw [(ends other).1 notLater]
            exact Function.update_of_ne different _ _
          · by_cases later : other ∈ messages
            · exact List.mem_cons_of_mem _ ((ends other).2 later into)
            · obtain rfl : other = message :=
                (List.mem_cons.mp member).resolve_right later
              simp only [Filled, (ends other).1 later,
                Function.update_self]
              exact List.mem_cons_self

/-! ## The transfer -/

/--
What a transfer should have done when it ends: one array went to the kernel,
describing the messages one by one; and if the call returned, every message
was sent in full or has been filled in all its bytes.
-/
structure HandedOver (bus : Bus) (addr : BitVec 16)
    (reading : Nat → Bool) (messages : List Nat)
    (outcome : Outcome Exception Unit) (bus' : Bus) : Prop where
  array : ∃ array,
    bus'.arrays = bus.arrays ++ [array] ∧
      List.Forall₂ (Describes bus.objects addr reading) messages array
  completed : outcome = .returned () → ∃ transactions,
    bus'.transactions = bus.transactions ++ transactions ∧
      List.Forall₂ (Completes bus.objects addr reading)
        messages transactions ∧
      ∀ message ∈ messages, reading message = true →
        Filled addr transactions bus'.objects message

/-- The messages of a transfer fit the fields of its descriptors. -/
def Fits (objects : Messages) (messages : List Nat) : Prop :=
  messages.length < 2 ^ 32 ∧
    ∀ message ∈ messages, (objects message).data.length < 2 ^ 16

/-- The array that `transferImpl` passes. -/
def passedArray (objects : Messages) (addr : BitVec 16)
    (messages : List Nat) : List I2cMsg :=
  (messages.take (BitVec.ofNat 32 messages.length).toNat).map
    (descriptor objects addr)

/-- All that a transfer can do. -/
def Transfers (addr : BitVec 16) (messages : List Nat) (bus : Bus) :
    Outcome Exception Unit → I2C → Bus → Prop
  | .returned _, _, bus' =>
      CarriesOutAll
        { bus with
          arrays :=
            bus.arrays ++ [passedArray bus.objects addr messages] }
        (passedArray bus.objects addr messages) bus'
  | .threw _, _, bus' =>
      bus'.arrays =
        bus.arrays ++ [passedArray bus.objects addr messages]

theorem transferImpl_ensures
    (addr : BitVec 16) (messages : List Nat) (i2c : I2C) (bus : Bus) :
    (transferImpl bus.objects addr messages).Ensures busKernel
      (Transfers addr messages bus) i2c bus := by
  simp only [transferImpl, sysIoctl, Routine.ensures_bind,
    Routine.ensures_self, Routine.ensures_call, Routine.ensures_done,
    Routine.ensures_ite, Routine.ensures_raise, Routine.ensures_pure,
    Routine.afterwards_returned, busKernel]
  rintro error bus' (⟨failed, passed⟩ | ⟨accepted, carried⟩)
  · exact ⟨fun _ => passed, fun accepted => absurd failed accepted⟩
  · refine ⟨fun failed => ?_, fun _ => carried⟩
    exact absurd accepted (Int.not_le.mpr failed)

theorem length_passedArray
    (objects : Messages) (addr : BitVec 16) (messages : List Nat) :
    (passedArray objects addr messages).length =
      messages.length % 2 ^ 32 := by
  have smaller : messages.length % 2 ^ 32 ≤ messages.length :=
    Nat.mod_le _ _
  rw [passedArray, List.length_map, List.length_take,
    BitVec.toNat_ofNat, Nat.min_eq_left smaller]

theorem passedArray_eq_map
    {messages : List Nat} (countable : messages.length < 2 ^ 32)
    (objects : Messages) (addr : BitVec 16) :
    passedArray objects addr messages =
      messages.map (descriptor objects addr) := by
  rw [passedArray, BitVec.toNat_ofNat, Nat.mod_eq_of_lt countable,
    List.take_length]

theorem describes_descriptor_iff
    {objects : Messages} {addr : BitVec 16} {reading : Nat → Bool}
    {message : Nat} (made : (objects message).Made (reading message)) :
    Describes objects addr reading message
        (descriptor objects addr message) ↔
      (objects message).data.length < 2 ^ 16 := by
  constructor
  · rintro ⟨_, _, sameLen, _⟩
    rw [← sameLen]
    exact BitVec.isLt _
  · intro short
    refine ⟨rfl, made.flags_eq, ?_, rfl⟩
    rw [descriptor, BitVec.toNat_ofNat, Nat.mod_eq_of_lt short]

/-- The passed array is faithful exactly when the messages fit it. -/
theorem describes_passedArray_iff_fits
    {objects : Messages} {addr : BitVec 16} {reading : Nat → Bool}
    {messages : List Nat}
    (made : ∀ message ∈ messages,
      (objects message).Made (reading message)) :
    List.Forall₂ (Describes objects addr reading) messages
        (passedArray objects addr messages) ↔
      Fits objects messages := by
  have each (countable : messages.length < 2 ^ 32) :
      List.Forall₂ (Describes objects addr reading) messages
          (passedArray objects addr messages) ↔
        ∀ message ∈ messages,
          (objects message).data.length < 2 ^ 16 := by
    rw [passedArray_eq_map countable, List.forall₂_map_right_iff,
      List.forall₂_same]
    exact forall₂_congr fun message member =>
      describes_descriptor_iff (made message member)
  constructor
  · intro describes
    have sameLength := describes.length_eq
    rw [length_passedArray] at sameLength
    have countable : messages.length < 2 ^ 32 := by
      rw [sameLength]
      exact Nat.mod_lt _ (Nat.two_pow_pos 32)
    exact ⟨countable, (each countable).mp describes⟩
  · rintro ⟨countable, short⟩
    exact (each countable).mpr short

/-- Whether it returns or throws, a transfer has passed its array. -/
theorem Transfers.arrays_eq
    {addr : BitVec 16} {messages : List Nat} {bus bus' : Bus}
    {outcome : Outcome Exception Unit} {i2c' : I2C}
    (transfers : Transfers addr messages bus outcome i2c' bus') :
    bus'.arrays =
      bus.arrays ++ [passedArray bus.objects addr messages] := by
  cases outcome with
  | returned => exact CarriesOutAll.arrays_eq transfers
  | threw error => exact transfers

/--
For every public form of a transfer, every address and all messages made by
`Message::read` or `Message::write`: an execution of the transfer hands the
messages over exactly when there are fewer than `2 ^ 32` of them and each
holds fewer than `2 ^ 16` bytes.
-/
theorem handedOver_iff_fits
    {overload : Overload} {addr : BitVec 16} {reading : Nat → Bool}
    {messages : List Nat} {i2c i2c' : I2C} {bus bus' : Bus}
    {outcome : Outcome Exception Unit}
    (made : ∀ message ∈ messages,
      (bus.objects message).Made (reading message))
    (executed :
      (overload.transfer bus.objects addr messages).Executes
        busKernel i2c bus outcome i2c' bus') :
    HandedOver bus addr reading messages outcome bus' ↔
      Fits bus.objects messages := by
  rw [transfer_eq_transferImpl] at executed
  rw [← describes_passedArray_iff_fits made]
  have transferred :=
    (transferImpl_ensures addr messages i2c bus).of_executes executed
  constructor
  · rintro ⟨⟨array, passed, describes⟩, _⟩
    rw [transferred.arrays_eq] at passed
    have sameArray := List.append_cancel_left passed
    rw [List.singleton_inj] at sameArray
    rwa [sameArray]
  · intro describes
    refine ⟨⟨_, transferred.arrays_eq, describes⟩, ?_⟩
    rintro rfl
    rcases CarriesOutAll.completes describes transferred (.refl _ _) with
      ⟨transactions, happened, complete, ends⟩
    exact
      ⟨transactions, happened, complete,
        fun message member => (ends message).2 member⟩

/-! ## A message that fits and one that does not -/

/-- A bus on which every message is a read of `len` bytes. -/
def readBus (len : Nat) : Bus where
  objects _ := .read len
  arrays := []
  transactions := []

/-- A transfer of a read of one byte that receives `0x2a`. -/
theorem transfer_readBus_one :
    (Overload.arguments.transfer (readBus 1).objects 0x56
        [0]).Executes busKernel ⟨3, "/dev/i2c-0"⟩ (readBus 1)
      (.returned ()) ⟨3, "/dev/i2c-0"⟩
      { objects := Function.update (readBus 1).objects 0 ⟨1, [0x2a]⟩
        arrays := [[⟨0x56, 1, 1, 0⟩]]
        transactions := [.received 0x56 0 [0x2a]] } := by
  apply Routine.Executes.call (0 : Int)
    (.inr ⟨by decide, _, ⟨[0x2a], rfl, rfl⟩, rfl⟩)
  exact ⟨rfl, rfl, rfl⟩

theorem readBus_one_handedOver :
    HandedOver (readBus 1) 0x56 (fun _ => true) [0] (.returned ())
      { objects := Function.update (readBus 1).objects 0 ⟨1, [0x2a]⟩
        arrays := [[⟨0x56, 1, 1, 0⟩]]
        transactions := [.received 0x56 0 [0x2a]] } := by
  apply (handedOver_iff_fits (fun _ _ => .read 1)
    transfer_readBus_one).mpr
  exact ⟨by decide, fun _ _ => Nat.one_lt_two_pow (by decide)⟩

/-- The bus after a transfer that received nothing for the message. -/
def unreadBus (len : Nat) : Bus where
  objects := (readBus len).objects
  arrays := [[⟨0x56, 1, 0, 0⟩]]
  transactions := [.received 0x56 0 []]

theorem passedArray_readBus
    {len : Nat} (cut : BitVec.ofNat 16 len = 0) :
    passedArray (readBus len).objects 0x56 [0] =
      [⟨0x56, 1, 0, 0⟩] := by
  rw [passedArray_eq_map (by decide), List.map_singleton, descriptor]
  simp only [readBus, Message.read, List.length_replicate, cut]
  rfl

/-- A read whose length is cut to zero returns without a byte. -/
theorem transfer_readBus_cut
    {len : Nat} (cut : BitVec.ofNat 16 len = 0) :
    (Overload.arguments.transfer (readBus len).objects 0x56
        [0]).Executes busKernel ⟨3, "/dev/i2c-0"⟩ (readBus len)
      (.returned ()) ⟨3, "/dev/i2c-0"⟩ (unreadBus len) := by
  refine
    Routine.Executes.call (0 : Int) (.inr ⟨Int.le_refl 0, ?_⟩)
      ⟨rfl, rfl, rfl⟩
  change
    CarriesOutAll _ (passedArray (readBus len).objects 0x56 [0]) _
  rw [passedArray_readBus cut]
  refine ⟨_, ⟨[], rfl, rfl⟩, ?_⟩
  rw [CarriesOutAll, unreadBus, Bus.mk.injEq]
  refine ⟨?_, ?_, rfl⟩
  · exact (Function.update_eq_self 0 _).symm
  · exact congrArg (fun array => [array]) (passedArray_readBus cut).symm

/-- A read of `2 ^ 16` bytes returns and its message was not filled. -/
theorem long_read_returns_unfilled :
    (Overload.arguments.transfer (readBus (2 ^ 16)).objects 0x56
        [0]).Executes busKernel ⟨3, "/dev/i2c-0"⟩ (readBus (2 ^ 16))
      (.returned ()) ⟨3, "/dev/i2c-0"⟩ (unreadBus (2 ^ 16)) ∧
    ¬ HandedOver (readBus (2 ^ 16)) 0x56 (fun _ => true) [0]
      (.returned ()) (unreadBus (2 ^ 16)) := by
  refine ⟨transfer_readBus_cut (by decide), ?_⟩
  rintro ⟨_, completed⟩
  rcases completed rfl with ⟨transactions, happened, complete, _⟩
  rw [show transactions = [.received 0x56 0 []] from happened.symm]
    at complete
  cases complete with
  | cons first rest =>
      have received := first.2.2.2
      simp only [readBus, Message.read, List.length_replicate,
        List.length_nil] at received
      omega

end Periphery.I2C
