import Periphery.Routine.Script
import Periphery.Stream.Endpoint
import Periphery.Stream.Waiting

/-!
# A terminal

The driver of a terminal keeps two queues.  Behind the client's back it
transmits the bytes of one of them in order, and puts the bytes that arrive
into the other as long as there is room.  A read hands out what waits, up to
the count asked for, as the driver does when the settings ask for neither a
least count nor a time.

What the client knows of the queues are two bounds: so many bytes wait at
least, and so many are unsent at most.  Transmissions and arrivals never make
a bound false.  A hang-up may: the driver then need not hand out or transmit
what it has, and reports events without bytes.
-/

namespace Periphery

/-- A terminal with its client. -/
structure Terminal where
  memory : ByteMemory
  /-- What the terminal took from the latest call. -/
  sent : List Byte
  /-- What the terminal handed out to the latest call. -/
  received : List Byte
  outgoing : List Byte
  incoming : List Byte
  transmitted : List Byte
  arrived : List Byte
  /-- There was a hang-up, an error or an urgent condition to report. -/
  hungUp : Bool

namespace Terminal

/-- Before the first call, with empty queues. -/
def idle (memory : ByteMemory) : Terminal where
  memory := memory
  sent := []
  received := []
  outgoing := []
  incoming := []
  transmitted := []
  arrived := []
  hungUp := false

/-- The writing end of the latest call. -/
def outlet (terminal : Terminal) : Outlet :=
  ⟨terminal.memory, terminal.sent⟩

/-- The reading end of the latest call. -/
def inlet (terminal : Terminal) : Inlet :=
  ⟨terminal.memory, terminal.received⟩

/-- The latest call is over, and nothing of it is left. -/
def settled (terminal : Terminal) : Terminal :=
  { terminal with sent := [], received := [] }

/-- The driver took `taken` bytes from `data` on. -/
def take (terminal : Terminal) (data taken : Nat) : Terminal :=
  { terminal with
    sent := terminal.sent ++ terminal.memory.slice data taken
    outgoing := terminal.outgoing ++ terminal.memory.slice data taken }

/-- The driver stored `bytes` from `data` on, and `rest` goes on waiting. -/
def handOut (terminal : Terminal) (data : Nat) (bytes rest : List Byte) :
    Terminal :=
  { terminal with
    memory := terminal.memory.overwrite data bytes
    received := terminal.received ++ bytes
    incoming := rest }

/-- The driver transmitted all that it had. -/
def drained (terminal : Terminal) : Terminal :=
  { terminal with
    outgoing := []
    transmitted := terminal.transmitted ++ terminal.outgoing }

/-- What the driver does by itself; it has room for `room` bytes. -/
inductive Moves (room : Nat) (terminal : Terminal) : Terminal → Prop where
  | transmits {bytes rest : List Byte}
      (front : terminal.outgoing = bytes ++ rest) :
      Moves room terminal
        { terminal with
          outgoing := rest
          transmitted := terminal.transmitted ++ bytes }
  | arrives {bytes : List Byte}
      (fits : terminal.incoming.length + bytes.length ≤ room) :
      Moves room terminal
        { terminal with
          incoming := terminal.incoming ++ bytes
          arrived := terminal.arrived ++ bytes }
  | hangsUp : Moves room terminal { terminal with hungUp := true }

/--
The system calls on the terminal behind `fd`.  Any of them may fail.  A wait
that times out finds nothing waiting, and one that reports events finds bytes.
After a hang-up this need not be so, the counts may be wrong, and a read may
hand out less than what waits, or nothing.
-/
def kernel (room : Nat) (fd : Int) : Kernel posix Terminal :=
  fun terminal request answer terminal' =>
    match request, answer with
    | .write target data count, ret =>
        (target = fd → ret < 0) ∧ terminal' = terminal ∨
          target = fd ∧
            ∃ taken : Nat, taken ≤ count ∧
              terminal.outgoing.length + taken ≤ room ∧
              ret = taken ∧ terminal' = terminal.take data taken
    | .read target data count, ret =>
        (target = fd → ret < 0) ∧ terminal' = terminal ∨
          target = fd ∧
            ∃ bytes rest : List Byte,
              terminal.incoming = bytes ++ rest ∧
                bytes.length ≤ count ∧
                (terminal.hungUp = false →
                  bytes.length = min count terminal.incoming.length) ∧
                ret = bytes.length ∧
                terminal' = terminal.handOut data bytes rest
    | .tcdrain target, ret =>
        (target = fd → terminal.hungUp = false → ret < 0) ∧
            terminal' = terminal ∨
          target = fd ∧ 0 ≤ ret ∧ terminal' = terminal.drained
    | .ioctl target .tiocinq, (error, count) =>
        (target = fd → terminal.hungUp = false → 0 ≤ error →
            count.toNat = terminal.incoming.length) ∧
          terminal' = terminal
    | .ioctl target .tiocoutq, (error, count) =>
        (target = fd → terminal.hungUp = false → 0 ≤ error →
            count.toNat = terminal.outgoing.length) ∧
          terminal' = terminal
    | .poll target _ _, ret =>
        (target = fd → terminal.hungUp = false → 0 < ret →
            terminal.incoming ≠ []) ∧
          terminal' = terminal
    | .select target _, (ret, _) =>
        (target = fd → terminal.hungUp = false → ret = 0 →
            terminal.incoming = []) ∧
          terminal' = terminal
    | _, _ => terminal' = terminal

/-- The kernel, while the driver goes on. -/
def running (room : Nat) (fd : Int) : Kernel posix Terminal :=
  (kernel room fd).amid (Moves room)

end Terminal

/-! ## Accounts -/

/-- What a client knows of the queues. -/
structure Known where
  /-- At least so many bytes wait. -/
  waiting : Nat
  /-- At most so many bytes are unsent. -/
  unsent : Nat
deriving DecidableEq, Repr

namespace Known

/-- What the client knows is true. -/
structure Holds (known : Known) (terminal : Terminal) : Prop where
  waiting : known.waiting ≤ terminal.incoming.length
  unsent : terminal.outgoing.length ≤ known.unsent

/-- What is still known behind the bytes that the latest call moved. -/
def spend (known : Known) (terminal : Terminal) : Known where
  waiting := known.waiting - terminal.received.length
  unsent := known.unsent + terminal.sent.length

end Known

namespace Terminal

/--
The bytes of the terminal make up those of earlier calls and of the latest
one.  Without a hang-up, what was known before the latest call holds behind
the bytes that it moved.
-/
structure Accounts (room : Nat) (sentBefore receivedBefore : List Byte)
    (known : Known) (terminal : Terminal) : Prop where
  sent : terminal.transmitted ++ terminal.outgoing =
    sentBefore ++ terminal.sent
  received : terminal.arrived =
    receivedBefore ++ terminal.received ++ terminal.incoming
  waiting : terminal.hungUp = false →
    known.waiting ≤
      terminal.received.length + terminal.incoming.length
  unsent : terminal.hungUp = false →
    terminal.outgoing.length ≤ known.unsent + terminal.sent.length
  incomingRoom : terminal.incoming.length ≤ room
  outgoingRoom : terminal.outgoing.length ≤ room

section Accounting

variable
    {room : Nat} {fd : Int} {sentBefore receivedBefore : List Byte}
    {known : Known} {terminal terminal' : Terminal}

theorem Accounts.take
    (accounts : Accounts room sentBefore receivedBefore known terminal)
    {data taken : Nat}
    (fits : terminal.outgoing.length + taken ≤ room) :
    Accounts room sentBefore receivedBefore known
      (terminal.take data taken) where
  sent := by
    simp only [Terminal.take]
    rw [← List.append_assoc, accounts.sent, List.append_assoc]
  received := accounts.received
  waiting := accounts.waiting
  unsent calm := by
    have unsent := accounts.unsent calm
    simp only [Terminal.take, List.length_append,
      ByteMemory.length_slice]
    omega
  incomingRoom := accounts.incomingRoom
  outgoingRoom := by
    simpa only [Terminal.take, List.length_append,
      ByteMemory.length_slice] using fits

theorem Accounts.handOut
    (accounts : Accounts room sentBefore receivedBefore known terminal)
    {data : Nat} {bytes rest : List Byte}
    (front : terminal.incoming = bytes ++ rest) :
    Accounts room sentBefore receivedBefore known
      (terminal.handOut data bytes rest) where
  sent := accounts.sent
  received := by
    have received := accounts.received
    rw [front] at received
    simpa only [Terminal.handOut, List.append_assoc] using received
  waiting calm := by
    have waiting := accounts.waiting calm
    rw [front, List.length_append] at waiting
    simp only [Terminal.handOut, List.length_append]
    omega
  unsent := accounts.unsent
  incomingRoom := by
    have inRoom := accounts.incomingRoom
    rw [front, List.length_append] at inRoom
    exact Nat.le_trans (Nat.le_add_left _ _) inRoom
  outgoingRoom := accounts.outgoingRoom

theorem Accounts.drained
    (accounts :
      Accounts room sentBefore receivedBefore known terminal) :
    Accounts room sentBefore receivedBefore known terminal.drained where
  sent := by
    simpa only [Terminal.drained, List.append_nil] using accounts.sent
  received := accounts.received
  waiting := accounts.waiting
  unsent _ := Nat.zero_le _
  incomingRoom := accounts.incomingRoom
  outgoingRoom := Nat.zero_le _

/-- The driver's own moves keep the accounts. -/
theorem Accounts.moves
    (accounts : Accounts room sentBefore receivedBefore known terminal)
    (moves : Moves room terminal terminal') :
    Accounts room sentBefore receivedBefore known terminal' := by
  cases moves with
  | @transmits bytes rest front =>
      have sent := accounts.sent
      have unsent := accounts.unsent
      have inRoom := accounts.outgoingRoom
      rw [front] at sent
      rw [front, List.length_append] at unsent inRoom
      exact
        { accounts with
          sent := by rw [List.append_assoc, sent]
          unsent := fun calm =>
            Nat.le_trans (Nat.le_add_left _ _) (unsent calm)
          outgoingRoom := by simp only; omega }
  | @arrives bytes fits =>
      have waiting := accounts.waiting
      exact
        { accounts with
          received := by
            simp only [accounts.received, List.append_assoc]
          waiting := fun calm => by
            have waiting := waiting calm
            simp only [List.length_append]
            omega
          incomingRoom := by
            simpa only [List.length_append] using fits }
  | hangsUp =>
      exact
        { accounts with
          waiting := by rintro ⟨⟩
          unsent := by rintro ⟨⟩ }

theorem Accounts.all_moves
    (accounts : Accounts room sentBefore receivedBefore known terminal)
    (moves : Relation.ReflTransGen (Moves room) terminal terminal') :
    Accounts room sentBefore receivedBefore known terminal' := by
  induction moves with
  | refl => exact accounts
  | tail _ step accounts => exact accounts.moves step

/-- Every system call keeps the accounts. -/
theorem accounts_preserved :
    (kernel room fd).Preserves
      (Accounts room sentBefore receivedBefore known) := by
  intro terminal request answer terminal' accounts answered
  cases request with
  | write target data count =>
      rcases answered with ⟨_, rfl⟩ | ⟨_, taken, _, fits, _, rfl⟩
      · exact accounts
      · exact accounts.take fits
  | read target data count =>
      rcases answered with
        ⟨_, rfl⟩ | ⟨_, bytes, rest, front, _, _, _, rfl⟩
      · exact accounts
      · exact accounts.handOut front
  | tcdrain target =>
      rcases answered with ⟨_, rfl⟩ | ⟨_, _, rfl⟩
      · exact accounts
      · exact accounts.drained
  | ioctl target request =>
      cases request with
      | tiocinq => exact answered.2 ▸ accounts
      | tiocoutq => exact answered.2 ▸ accounts
      | _ => exact answered ▸ accounts
  | poll target events timeout => exact answered.2 ▸ accounts
  | select target timeout => exact answered.2 ▸ accounts
  | _ => exact answered ▸ accounts

theorem accounts_preserved_running :
    (running room fd).Preserves
      (Accounts room sentBefore receivedBefore known) :=
  accounts_preserved.amid fun _ _ accounts => accounts.moves

/-- After a call, its bytes belong to the earlier ones. -/
theorem Accounts.settled
    (accounts : Accounts room sentBefore receivedBefore known terminal)
    {told : Known}
    (holds : terminal.hungUp = false → told.Holds terminal) :
    Accounts room (sentBefore ++ terminal.sent)
      (receivedBefore ++ terminal.received) told terminal.settled where
  sent := by
    simpa only [Terminal.settled, List.append_nil] using accounts.sent
  received := by
    simpa only [Terminal.settled, List.append_nil] using
      accounts.received
  waiting calm := by
    simpa only [Terminal.settled, List.length_nil, Nat.zero_add] using
      (holds calm).waiting
  unsent calm := (holds calm).unsent
  incomingRoom := accounts.incomingRoom
  outgoingRoom := accounts.outgoingRoom

/-- Behind the bytes that the latest call moved, the bounds hold. -/
theorem Accounts.holds
    (accounts : Accounts room sentBefore receivedBefore known terminal)
    (calm : terminal.hungUp = false) :
    (known.spend terminal).Holds terminal where
  waiting := by
    have waiting := accounts.waiting calm
    simp only [Known.spend]
    omega
  unsent := accounts.unsent calm

end Accounting

/-! ## Answers of a running terminal -/

section Answers

variable
    {room : Nat} {fd : Int} {terminal terminal' : Terminal}

/-- The driver leaves the client's side alone. -/
structure SameClient (terminal terminal' : Terminal) : Prop where
  memory : terminal'.memory = terminal.memory
  sent : terminal'.sent = terminal.sent
  received : terminal'.received = terminal.received

theorem SameClient.trans
    {last : Terminal} (first : SameClient terminal terminal')
    (second : SameClient terminal' last) : SameClient terminal last where
  memory := second.memory.trans first.memory
  sent := second.sent.trans first.sent
  received := second.received.trans first.received

theorem SameClient.of_moves
    (moves : Relation.ReflTransGen (Moves room) terminal terminal') :
    SameClient terminal terminal' := by
  induction moves with
  | refl => exact ⟨rfl, rfl, rfl⟩
  | tail _ step same => cases step <;> exact ⟨same.1, same.2, same.3⟩

/-- Meanwhile bytes can only arrive. -/
theorem incoming_le_of_moves
    (moves : Relation.ReflTransGen (Moves room) terminal terminal') :
    terminal.incoming.length ≤ terminal'.incoming.length := by
  induction moves with
  | refl => exact Nat.le_refl _
  | tail _ step below =>
      cases step with
      | transmits front => exact below
      | arrives fits =>
          simp only [List.length_append]
          omega
      | hangsUp => exact below

/-- Meanwhile bytes can only be transmitted. -/
theorem outgoing_le_of_moves
    (moves : Relation.ReflTransGen (Moves room) terminal terminal') :
    terminal'.outgoing.length ≤ terminal.outgoing.length := by
  induction moves with
  | refl => exact Nat.le_refl _
  | tail _ step below =>
      cases step with
      | @transmits bytes rest front =>
          rw [front, List.length_append] at below
          simp only
          omega
      | arrives fits => exact below
      | hangsUp => exact below

/-- A hang-up is for good. -/
theorem calm_of_moves
    (moves : Relation.ReflTransGen (Moves room) terminal terminal')
    (calm : terminal'.hungUp = false) : terminal.hungUp = false := by
  induction moves with
  | refl => exact calm
  | tail _ step induction =>
      cases step with
      | transmits front => exact induction calm
      | arrives fits => exact induction calm
      | hangsUp => cases calm

theorem running_write
    {data count : Nat} {ret : Int}
    (answered :
      running room fd terminal (.write fd data count) ret terminal') :
    ret < 0 ∧ SameClient terminal terminal' ∨
      ∃ taken : Nat, taken ≤ count ∧ ret = taken ∧
        terminal'.outlet = terminal.outlet.take data taken ∧
        terminal'.received = terminal.received := by
  rcases answered with ⟨before, after, earlier, answered, later⟩
  have same := SameClient.of_moves earlier
  have same' := SameClient.of_moves later
  rcases answered with ⟨failed, rfl⟩ | ⟨_, taken, most, _, rfl, rfl⟩
  · exact .inl ⟨failed rfl, same.trans same'⟩
  · refine .inr ⟨taken, most, rfl, ?_, same'.3.trans same.3⟩
    rw [outlet, same'.1, same'.2, Outlet.take, outlet]
    simp only [take, same.1, same.2]

/--
Without a hang-up, a read that succeeds leaves the buffer full or nothing of
what waited before the call.
-/
theorem running_read
    {sentBefore receivedBefore : List Byte} {known : Known}
    (accounts : Accounts room sentBefore receivedBefore known terminal)
    {data count : Nat} {ret : Int}
    (answered :
      running room fd terminal (.read fd data count) ret terminal') :
    ret < 0 ∧ SameClient terminal terminal' ∨
      ∃ bytes : List Byte, bytes.length ≤ count ∧
        bytes.length ≤ room ∧ ret = bytes.length ∧
        terminal'.inlet = terminal.inlet.store data bytes ∧
        terminal'.sent = terminal.sent ∧
        (terminal'.hungUp = false →
          min known.waiting (terminal.received.length + count) ≤
            terminal'.received.length) := by
  rcases answered with ⟨before, after, earlier, answered, later⟩
  have same := SameClient.of_moves earlier
  have same' := SameClient.of_moves later
  have waited := incoming_le_of_moves earlier
  rcases answered with ⟨failed, rfl⟩ |
    ⟨_, bytes, rest, front, most, all, rfl, rfl⟩
  · exact .inl ⟨failed rfl, same.trans same'⟩
  · refine
      .inr
        ⟨bytes, most, ?_, rfl, ?_, same'.2.trans same.2,
          fun calm => ?_⟩
    · have inRoom := (accounts.all_moves earlier).incomingRoom
      rw [front, List.length_append] at inRoom
      omega
    · rw [inlet, same'.1, same'.3, Inlet.store, inlet]
      simp only [handOut, same.1, same.3]
    · have calm' := calm_of_moves later calm
      have length := all calm'
      have waiting := accounts.waiting (calm_of_moves earlier calm')
      rw [same'.3]
      simp only [handOut, same.3, List.length_append]
      omega

/-- A wait that timed out has shown that no more was known to wait. -/
theorem running_select
    {sentBefore receivedBefore : List Byte} {known : Known}
    (accounts : Accounts room sentBefore receivedBefore known terminal)
    {timeout left : Timeval} {ret : Int}
    (answered :
      running room fd terminal (.select fd timeout) (ret, left)
        terminal') :
    SameClient terminal terminal' ∧
      (terminal'.hungUp = false → ret = 0 →
        known.waiting ≤ terminal'.received.length) := by
  rcases answered with ⟨before, after, earlier, ⟨told, rfl⟩, later⟩
  have same := SameClient.of_moves earlier
  have same' := SameClient.of_moves later
  refine ⟨same.trans same', fun calm expired => ?_⟩
  have calm' := calm_of_moves later calm
  have waited := incoming_le_of_moves earlier
  have waiting := accounts.waiting (calm_of_moves earlier calm')
  rw [told rfl calm' expired] at waited
  rw [same'.3, same.3]
  simp only [List.length_nil] at waited
  omega

theorem running_poll
    {events : BitVec 16} {timeout ret : Int}
    (answered :
      running room fd terminal (.poll fd events timeout) ret terminal') :
    SameClient terminal terminal' ∧
      (terminal'.hungUp = false → 0 < ret →
        1 ≤ terminal'.incoming.length) := by
  rcases answered with ⟨before, after, earlier, ⟨told, rfl⟩, later⟩
  have same := SameClient.of_moves earlier
  have same' := SameClient.of_moves later
  refine ⟨same.trans same', fun calm ready => ?_⟩
  have some :=
    List.length_pos_iff.mpr (told rfl (calm_of_moves later calm) ready)
  have waited := incoming_le_of_moves later
  omega

theorem running_tiocinq
    {error : Int} {count : BitVec 32}
    (answered :
      running room fd terminal (.ioctl fd .tiocinq) (error, count)
        terminal') :
    SameClient terminal terminal' ∧
      (terminal'.hungUp = false → 0 ≤ error →
        count.toNat ≤ terminal'.incoming.length) := by
  rcases answered with ⟨before, after, earlier, ⟨told, rfl⟩, later⟩
  have same := SameClient.of_moves earlier
  have same' := SameClient.of_moves later
  refine ⟨same.trans same', fun calm counted => ?_⟩
  rw [told rfl (calm_of_moves later calm) counted]
  exact incoming_le_of_moves later

theorem running_tiocoutq
    {error : Int} {count : BitVec 32}
    (answered :
      running room fd terminal (.ioctl fd .tiocoutq) (error, count)
        terminal') :
    SameClient terminal terminal' ∧
      (terminal'.hungUp = false → 0 ≤ error →
        terminal'.outgoing.length ≤ count.toNat) := by
  rcases answered with ⟨before, after, earlier, ⟨told, rfl⟩, later⟩
  have same := SameClient.of_moves earlier
  have same' := SameClient.of_moves later
  refine ⟨same.trans same', fun calm counted => ?_⟩
  rw [told rfl (calm_of_moves later calm) counted]
  exact outgoing_le_of_moves later

theorem running_tcdrain
    {ret : Int}
    (answered :
      running room fd terminal (.tcdrain fd) ret terminal') :
    SameClient terminal terminal' ∧
      (terminal'.hungUp = false → 0 ≤ ret →
        terminal'.outgoing.length = 0) := by
  rcases answered with ⟨before, after, earlier, answered, later⟩
  have same := SameClient.of_moves earlier
  have same' := SameClient.of_moves later
  have sent := outgoing_le_of_moves later
  rcases answered with ⟨failed, rfl⟩ | ⟨_, _, rfl⟩
  · refine ⟨same.trans same', fun calm drained => ?_⟩
    have negative := failed rfl (calm_of_moves later calm)
    exact absurd negative (Int.not_lt.mpr drained)
  · have drained : SameClient before terminal' :=
      ⟨same'.1, same'.2, same'.3⟩
    exact ⟨same.trans drained, fun _ _ => Nat.le_zero.mp sent⟩

end Answers

end Terminal

end Periphery
