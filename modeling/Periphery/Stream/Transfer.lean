import Periphery.CharacterDevice.Device
import Periphery.Routine.Thread
import Periphery.Serial.Device
import Periphery.Stream.Buffer

/-!
# Reading and writing streams

`Serial` and `CharacterDevice` share the text of their transfer functions.
The functions stand here once, over a descriptor, and each class applies them
to its own.

`poll` only waits.  `write` and `read_all` go round until their buffer is
empty.  The timed functions wait with `select` first; `read_all_timeout`
waits before each read, and gives up when a wait times out.
-/

namespace Periphery

/-- A `const` member function: it has no fields to assign. -/
abbrev ConstMethod (Value : Type) := Method Unit Value

/-- A `const` member function with a loop. -/
abbrev ConstLoop (Value : Type) := Routine.Loop posix Unit Exception Value

/-- The `struct timeval` of a count of milliseconds. -/
def Timeval.ofMilliseconds (timeout : Int) : Timeval where
  tv_sec := timeout.tdiv 1000
  tv_usec := timeout.tmod 1000 * 1000

/-! ## The functions of both classes -/

namespace Stream

/-- `poll`: whether there is something to read before the timeout. -/
def poll (fd : Int) (timeout : Int) : ConstMethod Bool := do
  let ret ← sysPoll fd (POLLIN ||| POLLPRI) (toInt timeout)
  if ret < 0 then
    .raise badAddress
  return ret > 0

/-- `write`. -/
def write (fd : Int) (buf : ConstBuffer) : ConstLoop Unit :=
  Routine.Loop.whileDo buf (fun buf => buf.size > 0)
    (fun buf => do
      let ret ← sysWrite fd buf.data buf.size
      if ret < 0 then
        .raise badAddress
      return buf.advance (toSizeT ret))
    ()

/-- The system call `read` and the test of its result. -/
def readChecked (fd : Int) (buf : MutableBuffer) : ConstMethod Int := do
  let ret ← sysRead fd buf.data buf.size
  if ret < 0 then
    .raise badAddress
  return ret

/-- `read`. -/
def read (fd : Int) (buf : MutableBuffer) : ConstMethod Int := do
  let ret ← readChecked fd buf
  return toInt ret

/-- `read_all`. -/
def readAll (fd : Int) (buf : MutableBuffer) : ConstLoop Unit :=
  Routine.Loop.whileDo buf (fun buf => buf.size > 0)
    (fun buf => do
      let bytesRead ← read fd buf
      return buf.advance (toSizeT bytesRead))
    ()

/--
The wait before a timed read: the time that is left, or `none` if the
timeout occurred.  A negative timeout does not wait.
-/
def waitReadable (fd : Int) (timeout : Int) (tv : Timeval) :
    ConstMethod (Option Timeval) :=
  if timeout ≥ 0 then do
    let (ret, left) ← sysSelect fd tv
    if ret < 0 then
      .raise badAddress
    return if ret = 0 then none else some left
  else
    return some tv

/-- `read_timeout`. -/
def readTimeout (fd : Int) (buf : MutableBuffer) (timeout : Int) :
    ConstMethod Int := do
  match ← waitReadable fd timeout (.ofMilliseconds timeout) with
  | none => return 0
  | some _ => do
      let ret ← readChecked fd buf
      return toInt ret

/-- What `read_all_timeout` returns when `rest` is left of the buffer. -/
def bytesStored (original rest : MutableBuffer) : Int :=
  toInt (toSizeT (original.size - rest.size))

/-- `read_all_timeout`. -/
def readAllTimeout (fd : Int) (original : MutableBuffer)
    (timeout : Int) : ConstLoop Int where
  Cursor := MutableBuffer × Timeval
  start := (original, .ofMilliseconds timeout)
  body := fun (buf, tv) => do
    match ← waitReadable fd timeout tv with
    | none => return .inr (bytesStored original buf)
    | some left => do
        let ret ← readChecked fd buf
        let rest := buf.advance (toSizeT ret)
        if rest.size > 0 then
          return .inl (rest, left)
        else
          return .inr (bytesStored original rest)

/-! ### Rounds -/

/-- The requests of a round of `write`. -/
theorem write_body
    (fd : Int) (buffer : ConstBuffer) {cursor : ConstBuffer}
    (remains : cursor.size > 0) :
    (write fd buffer).body cursor =
      .call (.write fd cursor.data cursor.size) fun (ret : Int) =>
        if ret < 0 then .raise badAddress
        else .done (.inl (cursor.advance (toSizeT ret))) := by
  simp only [write, Routine.Loop.whileDo, decide_eq_true_eq]
  rw [if_pos remains]
  apply congrArg (Routine.call _)
  funext ret
  by_cases failed : (ret : Int) < 0
  · simp only [Routine.bind, if_pos failed]
    rfl
  · simp only [Routine.bind, if_neg failed]
    rfl

/-- The requests of a round of `read_all`. -/
theorem readAll_body
    (fd : Int) (buffer : MutableBuffer) {cursor : MutableBuffer}
    (remains : cursor.size > 0) :
    (readAll fd buffer).body cursor =
      .call (.read fd cursor.data cursor.size) fun (ret : Int) =>
        if ret < 0 then .raise badAddress
        else .done (.inl (cursor.advance (toSizeT (toInt ret)))) := by
  simp only [readAll, Routine.Loop.whileDo, decide_eq_true_eq]
  rw [if_pos remains]
  apply congrArg (Routine.call _)
  funext ret
  by_cases failed : (ret : Int) < 0
  · simp only [Routine.bind, if_pos failed]
    rfl
  · simp only [Routine.bind, if_neg failed]
    rfl

/-- The part of a round of `read_all_timeout` behind its wait. -/
def readRound (fd : Int) (original cursor : MutableBuffer)
    (left : Timeval) :
    ConstMethod ((MutableBuffer × Timeval) ⊕ Int) :=
  .call (.read fd cursor.data cursor.size) fun (ret : Int) =>
    if ret < 0 then .raise badAddress
    else if (cursor.advance (toSizeT ret)).size > 0 then
      .done (.inl (cursor.advance (toSizeT ret), left))
    else
      .done (.inr (bytesStored original (cursor.advance (toSizeT ret))))

theorem readAllTimeout_round
    (fd : Int) (original cursor : MutableBuffer) (left : Timeval) :
    (do
      let ret ← readChecked fd cursor
      let rest := cursor.advance (toSizeT ret)
      if rest.size > 0 then
        return .inl (rest, left)
      else
        return .inr (bytesStored original rest)) =
      readRound fd original cursor left := by
  apply congrArg (Routine.call _)
  funext ret
  by_cases failed : (ret : Int) < 0
  · simp only [Routine.bind, if_pos failed]
    rfl
  · simp only [Routine.bind, if_neg failed]
    rfl

/-- The requests of a round of `read_all_timeout` with a timeout. -/
theorem readAllTimeout_body
    (fd : Int) (original cursor : MutableBuffer) {timeout : Int}
    (tv : Timeval) (waits : timeout ≥ 0) :
    (readAllTimeout fd original timeout).body (cursor, tv) =
      .call (.select fd tv) fun (answer : Int × Timeval) =>
        if answer.1 < 0 then .raise badAddress
        else if answer.1 = 0 then
          .done (.inr (bytesStored original cursor))
        else
          readRound fd original cursor answer.2 := by
  simp only [readAllTimeout, waitReadable, if_pos waits]
  apply congrArg (Routine.call _)
  funext ⟨ret, left⟩
  by_cases failed : ret < 0
  · simp only [Routine.bind, if_pos failed]
    rfl
  · by_cases zero : ret = 0
    · simp only [Routine.bind, if_neg failed, if_pos zero]
      rfl
    · simp only [Routine.bind, if_neg failed, if_neg zero]
      exact readAllTimeout_round fd original cursor left

/-- The requests of a round of `read_all_timeout` without a timeout. -/
theorem readAllTimeout_body_of_negative
    (fd : Int) (original cursor : MutableBuffer) {timeout : Int}
    (tv : Timeval) (negative : ¬ timeout ≥ 0) :
    (readAllTimeout fd original timeout).body (cursor, tv) =
      readRound fd original cursor tv := by
  simp only [readAllTimeout, waitReadable, if_neg negative]
  exact readAllTimeout_round fd original cursor tv

end Stream

/-! ## The classes -/

namespace Serial

/-- `Serial::poll`. -/
def poll (serial : Serial) (timeout : Int) : ConstMethod Bool :=
  Stream.poll serial.fd_ timeout

/-- `Serial::write`. -/
def write (serial : Serial) (buf : ConstBuffer) : ConstLoop Unit :=
  Stream.write serial.fd_ buf

/-- `Serial::read`. -/
def read (serial : Serial) (buf : MutableBuffer) : ConstMethod Int :=
  Stream.read serial.fd_ buf

/-- `Serial::read_all`. -/
def readAll (serial : Serial) (buf : MutableBuffer) : ConstLoop Unit :=
  Stream.readAll serial.fd_ buf

/-- `Serial::read_timeout`. -/
def readTimeout (serial : Serial) (buf : MutableBuffer)
    (timeout : Int) : ConstMethod Int :=
  Stream.readTimeout serial.fd_ buf timeout

/-- `Serial::read_all_timeout`. -/
def readAllTimeout (serial : Serial) (buf : MutableBuffer)
    (timeout : Int) : ConstLoop Int :=
  Stream.readAllTimeout serial.fd_ buf timeout

end Serial

namespace CharacterDevice

/-- `CharacterDevice::poll`. -/
def poll (device : CharacterDevice) (timeout : Int) :
    ConstMethod Bool :=
  Stream.poll device.m_fd timeout

/-- `CharacterDevice::write`. -/
def write (device : CharacterDevice) (buf : ConstBuffer) :
    ConstLoop Unit :=
  Stream.write device.m_fd buf

/-- `CharacterDevice::read`. -/
def read (device : CharacterDevice) (buf : MutableBuffer) :
    ConstMethod Int :=
  Stream.read device.m_fd buf

/-- `CharacterDevice::read_all`. -/
def readAll (device : CharacterDevice) (buf : MutableBuffer) :
    ConstLoop Unit :=
  Stream.readAll device.m_fd buf

/-- `CharacterDevice::read_timeout`. -/
def readTimeout (device : CharacterDevice) (buf : MutableBuffer)
    (timeout : Int) : ConstMethod Int :=
  Stream.readTimeout device.m_fd buf timeout

/-- `CharacterDevice::read_all_timeout`. -/
def readAllTimeout (device : CharacterDevice) (buf : MutableBuffer)
    (timeout : Int) : ConstLoop Int :=
  Stream.readAllTimeout device.m_fd buf timeout

end CharacterDevice

end Periphery
