import Periphery.History
import Periphery.Stream.Session
import Periphery.Stream.Terminal

/-!
# A port on a terminal

A client calls the members of a port while the driver of the terminal goes on
transmitting and receiving.  Any system call may fail, and the client goes on
after the exceptions.

No byte is lost on the way in either direction, and what the client learned
from one call about the queues is true until calls of its own move bytes, or
the terminal is hung up.
-/

namespace Periphery

variable {port : StreamPort}

namespace PortCall

/-! ## What a call does -/

/-- Only `write` sends, and it sends first bytes of its buffer. -/
def Sends (call : PortCall port) (terminal : Terminal) : Prop :=
  match call with
  | .write buf => SendsPrefix terminal.memory buf terminal.outlet
  | _ => terminal.sent = []

/-- Only the read functions are handed bytes, and they store them. -/
def Receives (call : PortCall port) (terminal : Terminal) : Prop :=
  match call with
  | .read call => Stores call.buffer terminal.inlet
  | _ => terminal.received = []

/--
A `write` that returned has sent its whole buffer.  A read function that
returned without a hang-up has been handed what was known to wait, up to its
buffer's size.
-/
def Completes (known : Known) (call : PortCall port)
    (outcome : Outcome Exception call.Value) (terminal : Terminal) :
    Prop :=
  match call, outcome with
  | .write buf, .returned _ => terminal.sent.length = buf.size
  | .read call, .returned _ =>
      terminal.hungUp = false →
        min known.waiting call.buffer.size ≤ terminal.received.length
  | _, _ => True

/-- What the client learns from the value that a call returned. -/
def teaches (known : Known) : (call : PortCall port) → call.Value → Known
  | .poll _, ready =>
      if ready then { known with waiting := max known.waiting 1 }
      else known
  | .inputWaiting, count =>
      { known with waiting := max known.waiting count.toNat }
  | .outputWaiting, count =>
      { known with unsent := min known.unsent count.toNat }
  | .flush, _ => { known with unsent := 0 }
  | .write _, _ => known
  | .read _, _ => known

/-- What the client knows after a call, however it ended. -/
def knownAfter (call : PortCall port)
    (known : Known) (outcome : Outcome Exception call.Value)
    (terminal : Terminal) : Known :=
  match outcome with
  | .returned value => teaches (known.spend terminal) call value
  | .threw _ => known.spend terminal

/-- What holds during a call. -/
structure Runs (room : Nat) (sentBefore receivedBefore : List Byte)
    (known : Known) (call : PortCall port) (terminal : Terminal) :
    Prop where
  sends : call.Sends terminal
  receives : call.Receives terminal
  accounts : terminal.Accounts room sentBefore receivedBefore known

/-- What holds when a call has ended. -/
structure Leaves (room : Nat) (sentBefore receivedBefore : List Byte)
    (known : Known) (call : PortCall port)
    (outcome : Outcome Exception call.Value) (terminal : Terminal) :
    Prop where
  runs : call.Runs room sentBefore receivedBefore known terminal
  completes : call.Completes known outcome terminal
  known : terminal.hungUp = false →
    (call.knownAfter known outcome terminal).Holds terminal

end PortCall

/-! ## One call -/

namespace Stream

open Terminal

variable
    {room : Nat} {fd : Int} {sentBefore receivedBefore : List Byte}
    {known : Known}

/-- The loop of `write` on a terminal. -/
theorem write_keeps_line (buffer : ConstBuffer) :
    (write fd buffer).Keeps (running room fd)
      (fun terminal =>
        SendsPrefix terminal.memory buffer terminal.outlet ∧
          terminal.received = [])
      (fun cursor _ terminal =>
        SendsFrom terminal.memory buffer cursor () terminal.outlet ∧
          terminal.received = [])
      (fun outcome _ terminal =>
        outcome = .returned () →
          terminal.sent.length = buffer.size) := by
  rintro cursor _ terminal ⟨⟨count, within, rfl, took⟩, clean⟩
  have now : SendsPrefix terminal.memory buffer terminal.outlet :=
    ⟨count, within, took⟩
  have size := Buffer.advance_size within
  have fits := buffer.fits
  apply upholds_write ⟨now, clean⟩
  · intro _ ret terminal' answered
    rcases running_write answered with
      ⟨failed, same⟩ | ⟨taken, most, rfl, took', clean'⟩
    · have now' :
          SendsPrefix terminal'.memory buffer terminal'.outlet := by
        rw [outlet, same.1, same.2]
        exact now
      exact
        ⟨⟨now', same.3.trans clean⟩, fun _ => by rintro ⟨⟩,
          fun returned => absurd failed returned⟩
    · have memory : terminal'.memory = terminal.memory :=
        congrArg Outlet.memory took'
      have more : count + taken ≤ buffer.size := by omega
      rw [took, sent_take within, ← memory] at took'
      have now' :
          SendsPrefix terminal'.memory buffer terminal'.outlet :=
        ⟨count + taken, more, took'⟩
      refine
        ⟨⟨now', clean'.trans clean⟩,
          fun failed => absurd failed (by omega), fun _ => ?_⟩
      rw [toSizeT_natCast (by omega), Buffer.advance_advance]
      exact ⟨⟨count + taken, more, rfl, took'⟩, clean'.trans clean⟩
  · intro empty _
    have length := congrArg (fun outlet => outlet.accepted.length) took
    simp only [outlet, sent, ByteMemory.length_slice] at length
    omega

/-- During a call of a read function. -/
structure Fills (room : Nat) (sentBefore receivedBefore : List Byte)
    (known : Known) (buffer : MutableBuffer) (terminal : Terminal) :
    Prop where
  stores : Stores buffer terminal.inlet
  clean : terminal.sent = []
  accounts : terminal.Accounts room sentBefore receivedBefore known

/-- The cursor stands behind what was handed out. -/
def FillingFrom (room : Nat) (sentBefore receivedBefore : List Byte)
    (known : Known) (buffer cursor : MutableBuffer)
    (terminal : Terminal) : Prop :=
  cursor = buffer.advance terminal.received.length ∧
    Fills room sentBefore receivedBefore known buffer terminal

/-- Without a hang-up, a call that returned was handed what was known. -/
def FillsKnown {Value : Type} (known : Known) (buffer : MutableBuffer)
    (outcome : Outcome Exception Value) (_ : Unit)
    (terminal : Terminal) : Prop :=
  ∀ value, outcome = .returned value → terminal.hungUp = false →
    min known.waiting buffer.size ≤ terminal.received.length

theorem fillsKnown_threw
    {Value : Type} {buffer : MutableBuffer} {terminal : Terminal}
    {error : Exception} :
    FillsKnown known buffer (.threw error : Outcome Exception Value) ()
      terminal := by
  rintro value ⟨⟩

section Reading

variable
    {buffer cursor : MutableBuffer} {terminal terminal' : Terminal}

/-- What a read leaves, and what it has been handed if it succeeded. -/
theorem FillingFrom.read
    (fills :
      FillingFrom room sentBefore receivedBefore known buffer cursor
        terminal)
    {ret : Int}
    (answered :
      running room fd terminal (.read fd cursor.data cursor.size) ret
        terminal') :
    Fills room sentBefore receivedBefore known buffer terminal' ∧
      (¬ ret < 0 →
        ∃ count : Nat, ret = count ∧ count ≤ cursor.size ∧
          count ≤ room ∧
          FillingFrom room sentBefore receivedBefore known buffer
            (cursor.advance count) terminal' ∧
          (terminal'.hungUp = false →
            min known.waiting buffer.size ≤
              terminal'.received.length)) := by
  rcases fills with ⟨place, stores, clean, accounts⟩
  have accounts' :=
    accounts_preserved_running _ _ _ _ accounts answered
  have within : terminal.received.length ≤ buffer.size := stores.1
  have size : terminal.received.length + cursor.size = buffer.size := by
    rw [place, Buffer.advance_size within]
    exact Nat.add_sub_of_le within
  rcases running_read accounts answered with
    ⟨failed, same⟩ | ⟨bytes, most, inRoom, rfl, stored, clean', handed⟩
  · have stores' : Stores buffer terminal'.inlet := by
      rw [inlet, same.1, same.3]
      exact stores
    exact
      ⟨⟨stores', same.2.trans clean, accounts'⟩,
        fun returned => absurd failed returned⟩
  · have next :
        StoresFrom buffer (cursor.advance bytes.length)
          terminal'.inlet := by
      rw [stored]
      exact StoresFrom.store ⟨place, stores⟩ most
    have fills' :
        Fills room sentBefore receivedBefore known buffer terminal' :=
      ⟨next.2, clean'.trans clean, accounts'⟩
    rw [size] at handed
    exact
      ⟨fills', fun _ =>
        ⟨bytes.length, rfl, most, inRoom, ⟨next.1, fills'⟩, handed⟩⟩

/-- What a wait leaves, and what it has shown if it timed out. -/
theorem FillingFrom.select
    (fills :
      FillingFrom room sentBefore receivedBefore known buffer cursor
        terminal)
    {ret : Int} {timeout left : Timeval}
    (answered :
      running room fd terminal (.select fd timeout) (ret, left)
        terminal') :
    FillingFrom room sentBefore receivedBefore known buffer cursor
        terminal' ∧
      (terminal'.hungUp = false → ret = 0 →
        min known.waiting buffer.size ≤ terminal'.received.length) := by
  rcases fills with ⟨rfl, stores, clean, accounts⟩
  rcases running_select accounts answered with ⟨same, expired⟩
  refine ⟨⟨?_, ?_, same.2.trans clean, ?_⟩, fun calm zero => ?_⟩
  · rw [same.3]
  · rw [inlet, same.1, same.3]
    exact stores
  · exact accounts_preserved_running _ _ _ _ accounts answered
  · have all := expired calm zero
    omega

theorem readChecked_fills
    (fills :
      FillingFrom room sentBefore receivedBefore known buffer cursor
        terminal) :
    (readChecked fd cursor).Upholds (running room fd)
      (Fills room sentBefore receivedBefore known buffer)
      (FillsKnown known buffer) () terminal := by
  apply upholds_readChecked fills.2
  intro ret terminal' answered
  rcases fills.read answered with ⟨now, handed⟩
  refine ⟨now, fun _ => fillsKnown_threw, fun returned => ?_⟩
  rcases handed returned with ⟨_, _, _, _, _, enough⟩
  exact fun _ _ => enough

theorem read_fills
    (fills :
      FillingFrom room sentBefore receivedBefore known buffer cursor
        terminal) :
    (read fd cursor).Upholds (running room fd)
      (Fills room sentBefore receivedBefore known buffer)
      (FillsKnown known buffer) () terminal := by
  simp only [read, Routine.upholds_bind]
  apply (readChecked_fills fills).mono
  rintro (ret | error) _ _ now enough
  · exact ⟨now, fun _ _ => enough ret rfl⟩
  · exact fillsKnown_threw

theorem readTimeout_fills
    (fills :
      FillingFrom room sentBefore receivedBefore known buffer cursor
        terminal)
    (timeout : Int) :
    (readTimeout fd cursor timeout).Upholds (running room fd)
      (Fills room sentBefore receivedBefore known buffer)
      (FillsKnown known buffer) () terminal := by
  simp only [readTimeout, Routine.upholds_bind]
  apply upholds_waitReadable fills.2
  · intro _ ret left terminal' answered
    rcases fills.select answered with ⟨fills', expired⟩
    refine
      ⟨fills'.2, fun _ => fillsKnown_threw, fun zero => ?_, fun _ => ?_⟩
    · exact ⟨fills'.2, fun _ _ calm => expired calm zero⟩
    · exact read_fills fills'
  · exact fun _ => read_fills fills

/-- The loop of `read_all`, if the queue is not too long for an `int`. -/
theorem readAll_keeps_line
    (narrow : room < 2 ^ 31) (buffer : MutableBuffer) :
    (readAll fd buffer).Keeps (running room fd)
      (Fills room sentBefore receivedBefore known buffer)
      (fun cursor _ =>
        FillingFrom room sentBefore receivedBefore known buffer cursor)
      (FillsKnown known buffer) := by
  intro cursor _ terminal fills
  apply upholds_readAll fills.2
  · intro _ ret terminal' answered
    rcases fills.read answered with ⟨now, handed⟩
    refine ⟨now, fun _ => fillsKnown_threw, fun returned => ?_⟩
    rcases handed returned with ⟨count, rfl, _, most, next, _⟩
    rw [toInt_of_bounded (by omega) (by omega),
      toSizeT_natCast (by omega)]
    exact next
  · intro empty value _ _
    rcases fills with ⟨rfl, stores, _, _⟩
    have within : terminal.received.length ≤ buffer.size := stores.1
    have size := Buffer.advance_size within
    omega

theorem readAllTimeout_keeps_line
    (buffer : MutableBuffer) (timeout : Int) :
    (readAllTimeout fd buffer timeout).Keeps (running room fd)
      (Fills room sentBefore receivedBefore known buffer)
      (fun cursor _ =>
        FillingFrom room sentBefore receivedBefore known buffer cursor.1)
      (FillsKnown known buffer) := by
  rintro ⟨cursor, tv⟩ _ terminal fills
  have reads : ∀ left terminal',
      FillingFrom room sentBefore receivedBefore known buffer cursor
          terminal' →
        AfterWait (running room fd)
          (Fills room sentBefore receivedBefore known buffer) fd buffer
          cursor left
          (Routine.Loop.afterRound
            (fun cursor : MutableBuffer × Timeval => fun _ =>
              FillingFrom room sentBefore receivedBefore known buffer
                cursor.1)
            (FillsKnown known buffer))
          terminal' := by
    intro left terminal' fills ret terminal'' answered
    rcases fills.read answered with ⟨now, handed⟩
    refine ⟨now, fun _ => fillsKnown_threw, fun returned => ?_⟩
    rcases handed returned with ⟨count, rfl, most, _, next, enough⟩
    have fits := cursor.fits
    rw [toSizeT_natCast (by omega)]
    exact ⟨fun _ => next, fun _ _ _ => enough⟩
  apply upholds_readAllTimeout fills.2
  · intro _ ret left terminal' answered
    rcases fills.select answered with ⟨fills', expired⟩
    exact
      ⟨fills'.2, fun _ => fillsKnown_threw,
        fun zero _ _ calm => expired calm zero,
        fun _ => reads left _ fills'⟩
  · exact fun _ => reads tv _ fills

end Reading

end Stream

/-! ## Every call -/

namespace PortCall

open Terminal

variable
    {room : Nat} {sentBefore receivedBefore : List Byte}
    {known : Known} {terminal : Terminal}

/-- A call that moved no bytes finds what was known before it. -/
theorem spend_of_clean
    (sent : terminal.sent = []) (received : terminal.received = []) :
    known.spend terminal = known := by
  simp only [Known.spend, sent, received, List.length_nil, Nat.sub_zero,
    Nat.add_zero]

/-- What a call without a loop needs of its only request. -/
theorem sustains_query
    {call : PortCall port} {routine : ConstMethod call.Value}
    (calm : ∀ terminal, call.Sends terminal ↔ terminal.sent = [])
    (deaf : ∀ terminal, call.Receives terminal ↔
      terminal.received = [])
    (complete : ∀ outcome terminal,
      call.Completes known outcome terminal)
    (upheld :
      routine.Upholds (running room port.fd)
        (fun terminal => terminal.sent = [] ∧ terminal.received = [])
        (fun outcome _ terminal =>
          ∀ value, outcome = .returned value →
            terminal.hungUp = false → known.Holds terminal →
              (call.teaches known value).Holds terminal)
        () terminal)
    (accounts :
      terminal.Accounts room sentBefore receivedBefore known) :
    (Routine.Loop.once routine).Sustains (running room port.fd)
      (call.Runs room sentBefore receivedBefore known)
      (fun outcome _ terminal =>
        call.Leaves room sentBefore receivedBefore known outcome terminal)
      (Routine.Loop.once routine).entry () terminal := by
  apply Routine.Loop.Sustains.mono
    ((Routine.Loop.sustains_once upheld).preserves
      accounts_preserved_running accounts)
  · rintro terminal ⟨⟨sent, received⟩, accounts⟩
    exact ⟨(calm _).mpr sent, (deaf _).mpr received, accounts⟩
  · rintro outcome _ terminal ⟨⟨sent, received⟩, _⟩ ⟨learns, accounts⟩
    refine
      ⟨⟨(calm _).mpr sent, (deaf _).mpr received, accounts⟩,
        complete _ _, fun calm => ?_⟩
    have holds := accounts.holds calm
    rw [spend_of_clean sent received] at holds
    cases outcome with
    | returned value =>
        rw [knownAfter, spend_of_clean sent received]
        exact learns value rfl calm holds
    | threw error =>
        rw [knownAfter, spend_of_clean sent received]
        exact holds

section Runs

variable
    (sent : terminal.sent = []) (received : terminal.received = [])
    (accounts : terminal.Accounts room sentBefore receivedBefore known)

include sent received accounts

theorem write_runs (buf : ConstBuffer) :
    (port.write buf).Sustains (running room port.fd)
      ((PortCall.write buf : PortCall port).Runs room sentBefore
        receivedBefore known)
      (fun outcome _ terminal =>
        (PortCall.write buf : PortCall port).Leaves room sentBefore
          receivedBefore known outcome terminal)
      (port.write buf).entry () terminal := by
  have start :
      SendsFrom terminal.memory buf buf () terminal.outlet ∧
        terminal.received = [] := by
    refine ⟨⟨0, Nat.zero_le _, ?_, ?_⟩, received⟩
    · exact (Buffer.advance_zero buf).symm
    · rw [outlet, sent]
      rfl
  rw [port.write_eq]
  apply Routine.Loop.Sustains.mono
    (((Stream.write_keeps_line buf).sustains start).preserves
      accounts_preserved_running accounts)
  · rintro terminal ⟨⟨sends, clean⟩, accounts⟩
    exact ⟨sends, clean, accounts⟩
  · rintro (value | error) _ terminal ⟨⟨sends, clean⟩, _⟩
      ⟨whole, accounts⟩
    · exact ⟨⟨sends, clean, accounts⟩, whole rfl, accounts.holds⟩
    · exact ⟨⟨sends, clean, accounts⟩, trivial, accounts.holds⟩

theorem read_runs (narrow : room < 2 ^ 31) (call : ReadCall) :
    (port.perform call).Sustains (running room port.fd)
      ((PortCall.read call : PortCall port).Runs room sentBefore
        receivedBefore known)
      (fun outcome _ terminal =>
        (PortCall.read call : PortCall port).Leaves room sentBefore
          receivedBefore known outcome terminal)
      (port.perform call).entry () terminal := by
  have start :
      Stream.FillingFrom room sentBefore receivedBefore known
        call.buffer call.buffer terminal := by
    refine ⟨?_, ⟨?_, ?_⟩, sent, accounts⟩
    · rw [received]
      exact (Buffer.advance_zero _).symm
    · simp only [inlet, received, List.length_nil, Nat.zero_le]
    · simp only [inlet, received, List.length_nil,
        ByteMemory.slice_zero]
  have reads :
      (port.perform call).Sustains (running room port.fd)
        (Stream.Fills room sentBefore receivedBefore known call.buffer)
        (Stream.FillsKnown known call.buffer)
        (port.perform call).entry () terminal := by
    cases call with
    | read buf =>
        rw [port.perform_read]
        exact Routine.Loop.sustains_once (Stream.read_fills start)
    | readAll buf =>
        rw [port.perform_readAll]
        exact (Stream.readAll_keeps_line narrow buf).sustains start
    | readTimeout buf timeout =>
        rw [port.perform_readTimeout]
        exact
          Routine.Loop.sustains_once
            (Stream.readTimeout_fills start timeout)
    | readAllTimeout buf timeout =>
        rw [port.perform_readAllTimeout]
        exact
          (Stream.readAllTimeout_keeps_line buf timeout).sustains start
  apply Routine.Loop.Sustains.mono
    (reads.preserves accounts_preserved_running accounts)
  · rintro terminal ⟨fills, accounts⟩
    exact ⟨fills.clean, fills.stores, accounts⟩
  · rintro (value | error) _ terminal ⟨fills, _⟩ ⟨enough, accounts⟩
    · exact
        ⟨⟨fills.clean, fills.stores, accounts⟩, enough value rfl,
          accounts.holds⟩
    · exact
        ⟨⟨fills.clean, fills.stores, accounts⟩, trivial,
          accounts.holds⟩

/-- Every call runs as described, and leaves what it should. -/
theorem perform_runs
    (narrow : room < 2 ^ 31) (call : PortCall port) :
    call.perform.Sustains (running room port.fd)
      (call.Runs room sentBefore receivedBefore known)
      (fun outcome _ terminal =>
        call.Leaves room sentBefore receivedBefore known outcome
          terminal)
      call.perform.entry () terminal := by
  cases call with
  | write buf => exact write_runs sent received accounts buf
  | read call => exact read_runs sent received accounts narrow call
  | poll timeout =>
      apply sustains_query (fun _ => Iff.rfl) (fun _ => Iff.rfl)
        (by rintro (_ | _) _ <;> trivial) _ accounts
      rw [port.poll_eq]
      apply Stream.upholds_poll ⟨sent, received⟩
      intro ret terminal' answered
      rcases running_poll answered with ⟨same, ready⟩
      refine
        ⟨⟨same.2.trans sent, same.3.trans received⟩,
          fun _ => by rintro _ ⟨⟩, ?_⟩
      rintro _ _ ⟨⟩ calm holds
      by_cases positive : ret > 0
      · simp only [teaches, positive, decide_true, if_true]
        exact ⟨Nat.max_le.mpr ⟨holds.1, ready calm positive⟩, holds.2⟩
      · simp only [teaches, positive, decide_false]
        exact holds
  | inputWaiting =>
      apply sustains_query (fun _ => Iff.rfl) (fun _ => Iff.rfl)
        (by rintro (_ | _) _ <;> trivial) _ accounts
      rw [port.inputWaiting_eq]
      refine ⟨⟨sent, received⟩, ?_⟩
      rintro ⟨error, count⟩ terminal' answered
      rcases running_tiocinq answered with ⟨same, counted⟩
      refine
        Stream.upholds_queueLength
          ⟨same.2.trans sent, same.3.trans received⟩
          (fun _ => by rintro _ ⟨⟩) ?_
      rintro returned _ ⟨⟩ calm holds
      have counted := counted calm (Int.not_lt.mp returned)
      exact ⟨Nat.max_le.mpr ⟨holds.1, counted⟩, holds.2⟩
  | outputWaiting =>
      apply sustains_query (fun _ => Iff.rfl) (fun _ => Iff.rfl)
        (by rintro (_ | _) _ <;> trivial) _ accounts
      rw [port.outputWaiting_eq]
      refine ⟨⟨sent, received⟩, ?_⟩
      rintro ⟨error, count⟩ terminal' answered
      rcases running_tiocoutq answered with ⟨same, counted⟩
      refine
        Stream.upholds_queueLength
          ⟨same.2.trans sent, same.3.trans received⟩
          (fun _ => by rintro _ ⟨⟩) ?_
      rintro returned _ ⟨⟩ calm holds
      have counted := counted calm (Int.not_lt.mp returned)
      exact ⟨holds.1, Nat.le_min.mpr ⟨holds.2, counted⟩⟩
  | @flush serial =>
      apply sustains_query (fun _ => Iff.rfl) (fun _ => Iff.rfl)
        (by rintro (_ | _) _ <;> trivial) _ accounts
      apply Stream.upholds_flush ⟨sent, received⟩
      intro ret terminal' answered
      rcases running_tcdrain answered with ⟨same, drained⟩
      refine
        ⟨⟨same.2.trans sent, same.3.trans received⟩,
          fun _ => by rintro _ ⟨⟩, ?_⟩
      rintro returned _ ⟨⟩ calm holds
      have drained := drained calm (Int.not_lt.mp returned)
      exact ⟨holds.1, Nat.le_of_eq drained⟩

end Runs

end PortCall

/-! ## Clients of a port -/

/-- A call on the port that ended, with the terminal it left. -/
abbrev PortEnded (port : StreamPort) : Type :=
  Routine.Ended (@PortCall.Value port) Exception Terminal

/-- What the terminal took from these calls. -/
def sentBy (ended : List (PortEnded port)) : List Byte :=
  ended.flatMap fun call => call.state.sent

/-- What the terminal handed out to these calls. -/
def receivedBy (ended : List (PortEnded port)) : List Byte :=
  ended.flatMap fun call => call.state.received

/-- What a client knows after these calls; it begins with empty queues. -/
def knownBy (ended : List (PortEnded port)) : Known :=
  ended.foldl
    (fun known call =>
      call.call.knownAfter known call.outcome call.state)
    ⟨0, 0⟩

/-- A call that ended has done its work. -/
structure PortEnded.Faithful (earlier : List (PortEnded port))
    (ended : PortEnded port) : Prop where
  sends : ended.call.Sends ended.state
  receives : ended.call.Receives ended.state
  completes :
    ended.call.Completes (knownBy earlier) ended.outcome ended.state

/-- Before a call, the client may change its memory. -/
def Terminal.Prepares (_ : PortCall port) (terminal : Terminal)
    (terminal' : Terminal) : Prop :=
  ∃ memory, terminal' = { terminal.settled with memory := memory }

/-- What a client of a port may have come to. -/
abbrev OnLine (room : Nat) (port : StreamPort) (memory : ByteMemory)
    (situation :
      Routine.Situation (@PortCall.perform port) Terminal) : Prop :=
  Relation.ReflTransGen
    (Routine.Happens (@PortCall.perform port)
      (Terminal.kernel room port.fd) (Terminal.Moves room)
      Terminal.Prepares)
    (.start _ () (.idle memory)) situation

/-- What holds between calls. -/
structure BetweenCalls (room : Nat) (ended : List (PortEnded port))
    (terminal : Terminal) : Prop where
  accounts : terminal.settled.Accounts room (sentBy ended)
    (receivedBy ended) (knownBy ended)
  faithful : History.Every PortEnded.Faithful ended

/-- What holds during a call. -/
structure DuringCall (room : Nat) (ended : List (PortEnded port))
    (call : PortCall port) (terminal : Terminal) : Prop where
  runs : call.Runs room (sentBy ended) (receivedBy ended)
    (knownBy ended) terminal
  faithful : History.Every PortEnded.Faithful ended

theorem OnLine.finds
    {room : Nat} (narrow : room < 2 ^ 31) {memory : ByteMemory}
    {situation :
      Routine.Situation (@PortCall.perform port) Terminal}
    (run : OnLine room port memory situation) :
    situation.Finds _ (BetweenCalls room) (DuringCall room) := by
  apply Routine.Situation.finds run
  · refine ⟨?_, History.every_nil _⟩
    exact ⟨rfl, rfl, fun _ => Nat.le_refl _, fun _ => Nat.le_refl _,
      Nat.zero_le _, Nat.zero_le _⟩
  · rintro ended terminal terminal' ⟨accounts, faithful⟩ moves
    refine ⟨accounts.moves ?_, faithful⟩
    cases moves with
    | transmits front => exact .transmits front
    | arrives fits => exact .arrives fits
    | hangsUp => exact .hangsUp
  · rintro ended call _ terminal _ ⟨accounts, faithful⟩ ⟨memory, rfl⟩
    have started :
        Terminal.Accounts room (sentBy ended) (receivedBy ended)
          (knownBy ended)
          { terminal.settled with memory := memory } :=
      { accounts with }
    apply (call.perform_runs rfl rfl started narrow).mono
    · exact fun _ runs => ⟨runs, faithful⟩
    · rintro outcome _ terminal' _ ⟨runs, completes, known⟩
      refine ⟨?_, History.every_concat faithful ?_⟩
      · have settled := runs.accounts.settled known
        simpa only [sentBy, receivedBy, knownBy, List.flatMap_append,
          List.flatMap_singleton, List.foldl_append, List.foldl_cons,
          List.foldl_nil] using settled
      · exact ⟨runs.sends, runs.receives, completes⟩

/-! ## What a client can rely on -/

/-- What the terminal took from the call in progress. -/
def sending
    (situation : Routine.Situation (@PortCall.perform port) Terminal) :
    List Byte :=
  match situation.pending with
  | none => []
  | some _ => situation.state.sent

/-- What the terminal handed out to the call in progress. -/
def receiving
    (situation : Routine.Situation (@PortCall.perform port) Terminal) :
    List Byte :=
  match situation.pending with
  | none => []
  | some _ => situation.state.received

/-- What the client knows at the moment. -/
def knowing
    (situation : Routine.Situation (@PortCall.perform port) Terminal) :
    Known :=
  match situation.pending with
  | none => knownBy situation.ended
  | some _ => (knownBy situation.ended).spend situation.state

section Relying

variable
    {room : Nat} {memory : ByteMemory}
    {situation :
      Routine.Situation (@PortCall.perform port) Terminal}

theorem OnLine.faithful
    (narrow : room < 2 ^ 31) (run : OnLine room port memory situation) :
    History.Every PortEnded.Faithful situation.ended := by
  have finds := run.finds narrow
  rw [Routine.Situation.Finds] at finds
  split at finds
  · exact finds.faithful
  · exact finds.faithful

theorem OnLine.faithful_of_mem
    (narrow : room < 2 ^ 31) (run : OnLine room port memory situation)
    {ended : PortEnded port} (member : ended ∈ situation.ended) :
    ∃ earlier, PortEnded.Faithful earlier ended := by
  rcases List.append_of_mem member with ⟨earlier, later, split⟩
  refine ⟨earlier, run.faithful narrow earlier ended ?_⟩
  rw [split]
  exact ⟨later, by rw [List.append_assoc]; rfl⟩

/-- The bytes that were sent are transmitted, or the driver has them. -/
theorem OnLine.sent
    (narrow : room < 2 ^ 31) (run : OnLine room port memory situation) :
    situation.state.transmitted ++ situation.state.outgoing =
      sentBy situation.ended ++ sending situation := by
  have finds := run.finds narrow
  rw [Routine.Situation.Finds] at finds
  rw [sending]
  split at finds
  · next idle =>
      simp only [idle]
      exact finds.accounts.sent
  · next busy =>
      simp only [busy]
      exact finds.runs.accounts.sent

/-- The bytes that arrived were handed out, or the driver has them. -/
theorem OnLine.received
    (narrow : room < 2 ^ 31) (run : OnLine room port memory situation) :
    situation.state.arrived =
      receivedBy situation.ended ++ receiving situation ++
        situation.state.incoming := by
  have finds := run.finds narrow
  rw [Routine.Situation.Finds] at finds
  rw [receiving]
  split at finds
  · next idle =>
      simp only [idle]
      exact finds.accounts.received
  · next busy =>
      simp only [busy]
      exact finds.runs.accounts.received

/-- A `write` that returned has sent its buffer. -/
theorem OnLine.wrote
    (narrow : room < 2 ^ 31) (run : OnLine room port memory situation)
    {buf : ConstBuffer} {state : Terminal}
    (member :
      (⟨.write buf, .returned (), state⟩ : PortEnded port) ∈
        situation.ended) :
    state.sent = state.memory.slice buf.data buf.size := by
  rcases run.faithful_of_mem narrow member with
    ⟨_, ⟨count, _, took⟩, _, whole⟩
  have taken : state.sent = state.memory.slice buf.data count :=
    congrArg Outlet.accepted took
  have length : state.sent.length = buf.size := whole
  rw [taken, ByteMemory.length_slice] at length
  rw [taken, length]

/--
In every run on a terminal, whatever calls fail: the bytes transmitted and
those that the driver still has are the bytes taken from the calls, in order;
and the bytes that arrived are those handed out, followed by those that wait.
Of a `write` it took first bytes of the buffer, all of them if it returned,
and what it handed to a read function lies at the start of the buffer.
-/
theorem line_conserves_bytes
    (narrow : room < 2 ^ 31) (run : OnLine room port memory situation) :
    situation.state.transmitted ++ situation.state.outgoing =
        sentBy situation.ended ++ sending situation ∧
      situation.state.arrived =
        receivedBy situation.ended ++ receiving situation ++
          situation.state.incoming ∧
      (∀ ended ∈ situation.ended,
        ended.call.Sends ended.state ∧
          ended.call.Receives ended.state) ∧
      ∀ buf state,
        (⟨.write buf, .returned (), state⟩ : PortEnded port) ∈
            situation.ended →
          state.sent = state.memory.slice buf.data buf.size := by
  refine ⟨run.sent narrow, run.received narrow, ?_, ?_⟩
  · intro ended member
    rcases run.faithful_of_mem narrow member with
      ⟨_, sends, receives, _⟩
    exact ⟨sends, receives⟩
  · exact fun buf state member => run.wrote narrow member

/--
In every run on a terminal, until it is hung up, what the client learned is
true: at least as many bytes wait, and at most as many are unsent, as its
calls told it, less and more the bytes it has moved since.  After a `flush`,
and after an `output_waiting` that returned zero, all that it sent was
transmitted.
-/
theorem line_knowledge_holds
    (narrow : room < 2 ^ 31) (run : OnLine room port memory situation)
    (calm : situation.state.hungUp = false) :
    (knowing situation).Holds situation.state ∧
      ((knowing situation).unsent = 0 →
        situation.state.transmitted =
          sentBy situation.ended ++ sending situation) := by
  have holds : (knowing situation).Holds situation.state := by
    have finds := run.finds narrow
    rw [Routine.Situation.Finds] at finds
    rw [knowing]
    split at finds
    · next idle =>
        simp only [idle]
        have waiting := finds.accounts.waiting calm
        have unsent := finds.accounts.unsent calm
        simp only [Terminal.settled, List.length_nil, Nat.zero_add,
          Nat.add_zero] at waiting unsent
        exact ⟨waiting, unsent⟩
    · next busy =>
        simp only [busy]
        exact finds.runs.accounts.holds calm
  refine ⟨holds, fun none => ?_⟩
  have empty : situation.state.outgoing = [] := by
    have unsent := holds.unsent
    rw [none] at unsent
    exact List.length_eq_zero_iff.mp (Nat.le_zero.mp unsent)
  rw [← run.sent narrow, empty, List.append_nil]

end Relying

/-- A call that makes one request goes on to its end. -/
theorem OnLine.asks
    {room : Nat} {memory : ByteMemory} {ended : List (PortEnded port)}
    {terminal terminal' : Terminal}
    (run : OnLine room port memory ⟨ended, none, (), terminal⟩)
    (call : PortCall port) {rest : call.perform.Rest}
    {outcome : Outcome Exception call.Value}
    (advances :
      call.perform.Advances (Terminal.running room port.fd)
        call.perform.entry () terminal.settled rest () terminal')
    (left :
      Routine.Loop.Point.outcome ⟨rest, (), terminal'⟩ = some outcome) :
    OnLine room port memory
      ⟨ended ++ [⟨call, outcome, terminal'⟩], none, (), terminal'⟩ :=
  ((run.tail (.begins rfl ⟨terminal.memory, rfl⟩)).tail
    (.advances rfl advances)).tail (.ends rfl left)

/-! ## A byte that arrives -/

/-- A port with the descriptor 3. -/
def thirdPort : StreamPort := .serial ⟨3⟩

/-- One byte waits, and nothing else has happened. -/
def byteWaits : Terminal :=
  { Terminal.idle (fun _ => 0) with incoming := [7], arrived := [7] }

/-- The byte was read to the address 0. -/
def byteRead : Terminal := byteWaits.handOut 0 [7] []

/-- The client asks how many bytes wait. -/
def byteCounted : PortEnded thirdPort :=
  ⟨.inputWaiting, .returned 1, byteWaits⟩

theorem byte_fits : 0 + 1 < 2 ^ 64 := by
  decide

/-- The client reads into a buffer of one byte. -/
def byteFetched : PortEnded thirdPort :=
  ⟨.read (.read ⟨0, 1, byte_fits⟩), .returned 1, byteRead⟩

theorem byteWaits_counted :
    OnLine 4096 thirdPort (fun _ => 0)
      ⟨[byteCounted], none, (), byteWaits⟩ := by
  have arrives :
      (Terminal.idle (fun _ => 0)).Moves 4096 byteWaits :=
    @Terminal.Moves.arrives 4096 (.idle fun _ => 0) [7] (by decide)
  have waits :
      OnLine 4096 thirdPort (fun _ => 0) ⟨[], none, (), byteWaits⟩ :=
    .single (.moves rfl arrives)
  have counts :
      Terminal.running 4096 3 byteWaits (.ioctl 3 .tiocinq)
        ((0 : Int), (1 : BitVec 32)) byteWaits :=
    ⟨_, _, .refl, ⟨fun _ _ _ => rfl, rfl⟩, .refl⟩
  exact waits.asks .inputWaiting (.of_call _ rfl counts rfl) rfl

theorem byteWaits_fetched :
    OnLine 4096 thirdPort (fun _ => 0)
      ⟨[byteCounted, byteFetched], none, (), byteRead⟩ := by
  have reads :
      Terminal.running 4096 3 byteWaits (.read 3 0 1) (1 : Int)
        byteRead :=
    ⟨_, _, .refl,
      .inr ⟨rfl, [7], [], rfl, Nat.le_refl 1, fun _ => rfl, rfl, rfl⟩,
      .refl⟩
  exact
    byteWaits_counted.asks (.read (.read ⟨0, 1, byte_fits⟩))
      (.of_call _ rfl reads rfl) rfl

theorem byte_conserved :
    byteRead.transmitted ++ byteRead.outgoing =
        sentBy [byteCounted, byteFetched] ++ [] ∧
      byteRead.arrived =
        receivedBy [byteCounted, byteFetched] ++ [] ++
          byteRead.incoming := by
  have narrow : 4096 < 2 ^ 31 := by decide
  have conserved := line_conserves_bytes narrow byteWaits_fetched
  exact ⟨conserved.1, conserved.2.1⟩

/-- After the question, the client knows that one byte waits. -/
theorem byte_known :
    (⟨1, 0⟩ : Known).Holds byteWaits ∧
      byteWaits.transmitted = sentBy [byteCounted] ++ [] := by
  have narrow : 4096 < 2 ^ 31 := by decide
  have known := line_knowledge_holds narrow byteWaits_counted rfl
  exact ⟨known.1, known.2 rfl⟩

end Periphery
