import Periphery.Stream.Port
import Periphery.Stream.Rounds

/-!
# Queues and draining

The members that ask for the lengths of a terminal's queues, the one that
waits until everything was sent, and with them all calls that a client of a
port may make.  `CharacterDevice` declares a `flush` as well, but does not
define it.
-/

namespace Periphery

/-- `tcdrain`. -/
def sysTcdrain {Fields : Type} (fd : Int) : Method Fields Int :=
  Routine.call (.tcdrain fd) .done

/-! ## The functions of both classes -/

namespace Stream

/-- The count of an `ioctl` that asks for the length of a queue. -/
def queueLength (answer : Int × BitVec 32) : ConstMethod (BitVec 32) := do
  if answer.1 < 0 then
    .raise badAddress
  return answer.2

/-- `input_waiting`. -/
def inputWaiting (fd : Int) : ConstMethod (BitVec 32) := do
  queueLength (← sysIoctl fd .tiocinq)

/-- `output_waiting`. -/
def outputWaiting (fd : Int) : ConstMethod (BitVec 32) := do
  queueLength (← sysIoctl fd .tiocoutq)

/-- `flush`. -/
def flush (fd : Int) : ConstMethod Unit := do
  let error ← sysTcdrain fd
  if error < 0 then
    .raise badAddress

section Rules

variable
    {State : Type} {kernel : Kernel posix State}
    {during : State → Prop} {state : State}

theorem upholds_queueLength
    {answer : Int × BitVec 32}
    {post : Outcome Exception (BitVec 32) → Unit → State → Prop}
    (now : during state)
    (failed : answer.1 < 0 → post (.threw badAddress) () state)
    (counted : ¬ answer.1 < 0 → post (.returned answer.2) () state) :
    (queueLength answer).Upholds kernel during post () state := by
  by_cases negative : answer.1 < 0
  · rw [queueLength, if_pos negative]
    exact ⟨now, failed negative⟩
  · rw [queueLength, if_neg negative]
    exact ⟨now, counted negative⟩

theorem upholds_poll
    {fd timeout : Int}
    {post : Outcome Exception Bool → Unit → State → Prop}
    (now : during state)
    (answered : ∀ (ret : Int) state',
      kernel state (.poll fd (POLLIN ||| POLLPRI) (toInt timeout)) ret
          state' →
        during state' ∧
          (ret < 0 → post (.threw badAddress) () state') ∧
          (¬ ret < 0 → post (.returned (ret > 0)) () state')) :
    (poll fd timeout).Upholds kernel during post () state := by
  refine ⟨now, fun ret state' replied => ?_⟩
  rcases answered ret state' replied with ⟨now', failed, waited⟩
  by_cases negative : (ret : Int) < 0
  · simp only [Routine.bind, if_pos negative]
    exact ⟨now', failed negative⟩
  · simp only [Routine.bind, if_neg negative]
    exact ⟨now', waited negative⟩

theorem upholds_flush
    {fd : Int} {post : Outcome Exception Unit → Unit → State → Prop}
    (now : during state)
    (answered : ∀ (ret : Int) state',
      kernel state (.tcdrain fd) ret state' →
        during state' ∧
          (ret < 0 → post (.threw badAddress) () state') ∧
          (¬ ret < 0 → post (.returned ()) () state')) :
    (flush fd).Upholds kernel during post () state := by
  refine ⟨now, fun ret state' replied => ?_⟩
  rcases answered ret state' replied with ⟨now', failed, drained⟩
  by_cases negative : (ret : Int) < 0
  · simp only [Routine.bind, if_pos negative]
    exact ⟨now', failed negative⟩
  · simp only [Routine.bind, if_neg negative]
    exact ⟨now', drained negative⟩

end Rules

end Stream

/-! ## The classes -/

namespace Serial

/-- `Serial::input_waiting`. -/
def inputWaiting (serial : Serial) : ConstMethod (BitVec 32) :=
  Stream.inputWaiting serial.fd_

/-- `Serial::output_waiting`. -/
def outputWaiting (serial : Serial) : ConstMethod (BitVec 32) :=
  Stream.outputWaiting serial.fd_

/-- `Serial::flush`. -/
def flush (serial : Serial) : ConstMethod Unit :=
  Stream.flush serial.fd_

end Serial

namespace CharacterDevice

/-- `CharacterDevice::input_waiting`, without the message it logs. -/
def inputWaiting (device : CharacterDevice) : ConstMethod (BitVec 32) :=
  Stream.inputWaiting device.m_fd

/-- `CharacterDevice::output_waiting`. -/
def outputWaiting (device : CharacterDevice) :
    ConstMethod (BitVec 32) :=
  Stream.outputWaiting device.m_fd

end CharacterDevice

namespace StreamPort

/-- The function `input_waiting` of the class. -/
def inputWaiting : StreamPort → ConstMethod (BitVec 32)
  | .serial object => object.inputWaiting
  | .characterDevice object => object.inputWaiting

/-- The function `output_waiting` of the class. -/
def outputWaiting : StreamPort → ConstMethod (BitVec 32)
  | .serial object => object.outputWaiting
  | .characterDevice object => object.outputWaiting

theorem inputWaiting_eq (port : StreamPort) :
    port.inputWaiting = Stream.inputWaiting port.fd := by
  cases port with
  | serial object => rfl
  | characterDevice object => rfl

theorem outputWaiting_eq (port : StreamPort) :
    port.outputWaiting = Stream.outputWaiting port.fd := by
  cases port with
  | serial object => rfl
  | characterDevice object => rfl

end StreamPort

/-! ## Calls on a port -/

/-- A call on a port.  Only serial ports have a `flush`. -/
inductive PortCall : StreamPort → Type where
  | write {port : StreamPort} (buf : ConstBuffer) : PortCall port
  | read {port : StreamPort} (call : ReadCall) : PortCall port
  | poll {port : StreamPort} (timeout : Int) : PortCall port
  | inputWaiting {port : StreamPort} : PortCall port
  | outputWaiting {port : StreamPort} : PortCall port
  | flush {serial : Serial} : PortCall (.serial serial)
deriving Repr

namespace PortCall

/-- What the function returns. -/
abbrev Value {port : StreamPort} : PortCall port → Type
  | .write _ => Unit
  | .read call => call.Value
  | .poll _ => Bool
  | .inputWaiting => BitVec 32
  | .outputWaiting => BitVec 32
  | .flush => Unit

/-- The function that a call runs. -/
def perform {port : StreamPort} :
    (call : PortCall port) → ConstLoop call.Value
  | .write buf => port.write buf
  | .read call => port.perform call
  | .poll timeout => .once (port.poll timeout)
  | .inputWaiting => .once port.inputWaiting
  | .outputWaiting => .once port.outputWaiting
  | @PortCall.flush serial => .once serial.flush

end PortCall

end Periphery
