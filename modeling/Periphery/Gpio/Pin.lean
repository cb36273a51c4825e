import Periphery.Routine.Session
import Periphery.Syscall

/-!
# GPIO chips and pins

A `GpioChip` holds the descriptor of a chip device.  A `GpioPin` asks its
chip for a handle on one line, with a request that carries the configuration
of the pin.  The configuration cannot be changed on an open handle: `reopen`
closes the handle and asks for a new one.
-/

namespace Periphery

/-! ## Constants of `linux/gpio.h` -/

def GPIOHANDLE_REQUEST_INPUT : BitVec 32 := 0x01
def GPIOHANDLE_REQUEST_OUTPUT : BitVec 32 := 0x02
def GPIOHANDLE_REQUEST_ACTIVE_LOW : BitVec 32 := 0x04
def GPIOHANDLE_REQUEST_OPEN_DRAIN : BitVec 32 := 0x08
def GPIOHANDLE_REQUEST_OPEN_SOURCE : BitVec 32 := 0x10
def GPIOHANDLE_REQUEST_BIAS_PULL_UP : BitVec 32 := 0x20
def GPIOHANDLE_REQUEST_BIAS_PULL_DOWN : BitVec 32 := 0x40

def GPIOEVENT_REQUEST_RISING_EDGE : BitVec 32 := 0x01
def GPIOEVENT_REQUEST_FALLING_EDGE : BitVec 32 := 0x02
def GPIOEVENT_REQUEST_BOTH_EDGES : BitVec 32 := 0x03

/-- What the header that the library is compiled against defines. -/
structure GpioHeader where
  /--
  The value of `GPIOHANDLE_REQUEST_DISABLE`, if the header defines
  `GPIOHANDLE_REQUEST_BIAS_PULL_UP`.
  -/
  requestDisable : Option (BitVec 32)
  /-- Whether the header defines `GPIOHANDLE_REQUEST_OPEN_DRAIN`. -/
  openDrain : Bool
deriving DecidableEq, Repr

/-! ## Chips -/

/-- The fields of a `GpioChip` object. -/
structure GpioChip where
  m_fd : Int
deriving DecidableEq, Repr

namespace GpioChip

/-- `GpioChip::GpioChip`. -/
def construct (path : String) : Method GpioChip Unit := do
  let fd ← sysOpen path O_RDONLY
  Routine.update ⟨fd⟩
  if fd < 0 then
    .raise (.systemError efault "failed to open GPIO chip")
  let error ← sysIoctl fd .gpioGetChipinfo
  if error < 0 then
    let _ ← sysClose fd
    .raise badAddress

/-- `GpioChip::~GpioChip`. -/
def destruct : Method GpioChip Unit := do
  let chip ← Routine.self
  let _ ← sysClose chip.m_fd
  Routine.update ⟨-1⟩

end GpioChip

/-! ## Pins -/

namespace GpioPin

inductive Direction where
  | input
  | out
  | low
  | high
deriving DecidableEq, Repr

inductive Edge where
  | none
  | rising
  | falling
  | both
deriving DecidableEq, Repr

inductive Bias where
  | default
  | pullUp
  | pullDown
  | disable
deriving DecidableEq, Repr

inductive Drive where
  | default
  | openDrain
  | openSource
deriving DecidableEq, Repr

inductive Invert where
  | off
  | on
deriving DecidableEq, Repr

/-- The level of a line, as `get` and `set` see it. -/
inductive State where
  | low
  | high
deriving DecidableEq, Repr

end GpioPin

/-- The fields of a `GpioPin` object. -/
structure GpioPin where
  /-- The chip behind the shared pointer of the source. -/
  m_chip : GpioChip
  m_fd : Int
  m_line : BitVec 32
  m_label : List Byte
  m_direction : GpioPin.Direction
  m_edge : GpioPin.Edge
  m_bias : GpioPin.Bias
  m_drive : GpioPin.Drive
  m_invert : GpioPin.Invert
deriving DecidableEq, Repr

namespace GpioPin

/-! ## Encoding of the configuration -/

/-- `to_request(Edge)`. -/
def Edge.toRequest : Edge → BitVec 32
  | .rising => GPIOEVENT_REQUEST_RISING_EDGE
  | .falling => GPIOEVENT_REQUEST_FALLING_EDGE
  | .both => GPIOEVENT_REQUEST_BOTH_EDGES
  | .none => 0

/-- `to_request(Invert)`. -/
def Invert.toRequest : Invert → BitVec 32
  | .on => GPIOHANDLE_REQUEST_ACTIVE_LOW
  | .off => 0

/-- `to_request(Direction)`. -/
def Direction.toRequest : Direction → BitVec 32
  | .input => GPIOHANDLE_REQUEST_INPUT
  | .out => GPIOHANDLE_REQUEST_OUTPUT
  | .low => GPIOHANDLE_REQUEST_OUTPUT
  | .high => GPIOHANDLE_REQUEST_OUTPUT

/-- `to_request(Bias)`, in the form that the header selects. -/
def Bias.toRequest (header : GpioHeader) (bias : Bias) :
    Except Exception (BitVec 32) :=
  match header.requestDisable with
  | some requestDisable =>
      match bias with
      | .pullUp => .ok GPIOHANDLE_REQUEST_BIAS_PULL_UP
      | .pullDown => .ok GPIOHANDLE_REQUEST_BIAS_PULL_DOWN
      | .disable => .ok requestDisable
      | .default => .ok 0
  | none =>
      if bias ≠ .default then
        .error (.runtimeError
          "Kernel version does not support configuring GPIO line bias.")
      else
        .ok 0

/-- `to_request(Drive)`, in the form that the header selects. -/
def Drive.toRequest (header : GpioHeader) (drive : Drive) :
    Except Exception (BitVec 32) :=
  if header.openDrain then
    match drive with
    | .openSource => .ok GPIOHANDLE_REQUEST_OPEN_SOURCE
    | .openDrain => .ok GPIOHANDLE_REQUEST_OPEN_DRAIN
    | .default => .ok 0
  else if drive ≠ .default then
    .error (.runtimeError
      "Kernel version does not support configuring GPIO line drive.")
  else
    .ok 0

/-- The flags of a request, as the first statement of `reopen` joins them. -/
def requestFlags (header : GpioHeader) (direction : Direction)
    (bias : Bias) (drive : Drive) (invert : Invert) :
    Except Exception (BitVec 32) := do
  let biasFlags ← bias.toRequest header
  let driveFlags ← drive.toRequest header
  return biasFlags ||| driveFlags ||| invert.toRequest |||
    direction.toRequest

/--
`strncpy` of the first `count` bytes of a label into a zeroed field: it stops
after the first zero byte of the label.
-/
def strncpy (label : List Byte) (count : Nat) : Vector Byte 32 :=
  Vector.ofFn fun index =>
    if index < count then
      (label.takeWhile (· ≠ 0)).getD index 0
    else
      0

/-- The entry of the one line that is asked for, in an array for 64 lines. -/
def oneLine {width : Nat} (entry : BitVec width) :
    Vector (BitVec width) 64 :=
  (Vector.replicate 64 0).set 0 entry

/-! ## The handle of the line -/

/-- The part of `reopen` that gives up the handle. -/
def closeHandle : Method GpioPin Unit := do
  let pin ← Routine.self
  if pin.m_fd ≥ 0 then
    let success ← sysClose pin.m_fd
    if success < 0 then
      .raise (.systemError (-success) "Failed to close GPIO line.")
    Routine.update { pin with m_fd := -1 }

/-- The branch of `reopen` for an input without edge events. -/
def openInput (flags : BitVec 32) : Method GpioPin Int := do
  let pin ← Routine.self
  let request : GpiohandleRequest :=
    { lines := 1
      lineoffsets := oneLine pin.m_line
      flags := flags
      default_values := Vector.replicate 64 0
      consumer_label := strncpy pin.m_label 32 }
  let (success, fd) ←
    sysIoctl pin.m_chip.m_fd (.gpioGetLinehandle request)
  if success < 0 then
    .raise (.systemError (-success)
      "Failed to open input line handle.")
  return fd

/-- The branch of `reopen` for an input with edge events. -/
def openEvent (flags : BitVec 32) (edge : Edge) :
    Method GpioPin Int := do
  let pin ← Routine.self
  let request : GpioeventRequest :=
    { lineoffset := pin.m_line
      handleflags := flags
      eventflags := edge.toRequest
      consumer_label := strncpy pin.m_label 31 }
  let (success, fd) ←
    sysIoctl pin.m_chip.m_fd (.gpioGetLineevent request)
  if success < 0 then
    .raise (.systemError (-success)
      "Failed to open input event line handle.")
  return fd

/-- The branch of `reopen` for an output. -/
def openOutput (flags : BitVec 32) (direction : Direction)
    (invert : Invert) : Method GpioPin Int := do
  let pin ← Routine.self
  let initial_value :=
    Bool.xor (direction = .high) (invert = .on)
  let request : GpiohandleRequest :=
    { lines := 1
      lineoffsets := oneLine pin.m_line
      flags := flags
      default_values := oneLine (if initial_value then 1 else 0)
      consumer_label := strncpy pin.m_label 31 }
  let (success, fd) ←
    sysIoctl pin.m_chip.m_fd (.gpioGetLinehandle request)
  if success < 0 then
    .raise (.systemError efault
      "Failed to open output line handle.")
  return fd

/-- The three branches of `reopen`. -/
def openLine (flags : BitVec 32) (direction : Direction) (edge : Edge)
    (invert : Invert) : Method GpioPin Int :=
  if direction = .input ∧ edge = .none then
    openInput flags
  else if direction = .input ∧ edge ≠ .none then
    openEvent flags edge
  else
    openOutput flags direction invert

/-- `GpioPin::reopen`. -/
def reopen (header : GpioHeader) (direction : Direction) (edge : Edge)
    (bias : Bias) (drive : Drive) (invert : Invert) :
    Method GpioPin Unit := do
  let flags ←
    Routine.ofExcept (requestFlags header direction bias drive invert)
  closeHandle
  let fd ← openLine flags direction edge invert
  let pin ← Routine.self
  Routine.update
    { pin with
      m_fd := fd
      m_direction := direction
      m_edge := edge
      m_bias := bias
      m_drive := drive
      m_invert := invert }

/-! ## Setters -/

/-- `GpioPin::direction(Direction)`. -/
def direction (header : GpioHeader) (value : Direction) :
    Method GpioPin Unit := do
  let pin ← Routine.self
  if pin.m_direction ≠ value then
    reopen header value pin.m_edge pin.m_bias pin.m_drive pin.m_invert

/-- `GpioPin::edge(Edge)`. -/
def edge (header : GpioHeader) (value : Edge) :
    Method GpioPin Unit := do
  let pin ← Routine.self
  if pin.m_edge ≠ value then
    reopen header pin.m_direction value pin.m_bias pin.m_drive
      pin.m_invert

/-- `GpioPin::bias(Bias)`. -/
def bias (header : GpioHeader) (value : Bias) :
    Method GpioPin Unit := do
  let pin ← Routine.self
  if pin.m_bias ≠ value then
    reopen header pin.m_direction pin.m_edge value pin.m_drive
      pin.m_invert

/-- `GpioPin::drive(Drive)`. -/
def drive (header : GpioHeader) (value : Drive) :
    Method GpioPin Unit := do
  let pin ← Routine.self
  if pin.m_drive ≠ value then
    reopen header pin.m_direction pin.m_edge pin.m_bias value
      pin.m_invert

/-- `GpioPin::invert(Invert)`. -/
def invert (header : GpioHeader) (value : Invert) :
    Method GpioPin Unit := do
  let pin ← Routine.self
  if pin.m_invert ≠ value then
    reopen header pin.m_direction pin.m_edge pin.m_bias pin.m_drive
      value

/-- `GpioPin::reconfigure`. -/
def reconfigure (header : GpioHeader) (direction : Direction)
    (edge : Edge) (bias : Bias) (drive : Drive) (invert : Invert) :
    Method GpioPin Unit :=
  reopen header direction edge bias drive invert

/-! ## Constructor, destructor and levels -/

/-- `GpioPin::GpioPin`. -/
def construct (header : GpioHeader) (chip : GpioChip)
    (line : BitVec 32) (label : List Byte) (direction : Direction)
    (edge : Edge) (bias : Bias) (drive : Drive) (invert : Invert) :
    Method GpioPin Unit := do
  let fields ← Routine.self
  Routine.update
    { fields with
      m_chip := chip
      m_fd := -1
      m_line := line
      m_label := label }
  reopen header direction edge bias drive invert

/-- `GpioPin::~GpioPin`. -/
def destruct : Method GpioPin Unit := do
  let pin ← Routine.self
  let _ ← sysClose pin.m_fd
  return ()

/-- `GpioPin::get`. -/
def get : Method GpioPin State := do
  let pin ← Routine.self
  let (success, value) ← sysIoctl pin.m_fd .gpiohandleGetLineValues
  if success < 0 then
    .raise (.systemError efault "Failed to read pin state.")
  return if value ≠ 0 then .high else .low

/-- `GpioPin::set`. -/
def set (value : State) : Method GpioPin Unit := do
  let pin ← Routine.self
  let success ←
    sysIoctl pin.m_fd
      (.gpiohandleSetLineValues (if value = .high then 1 else 0))
  if success < 0 then
    .raise (.systemError efault "Failed to write pin state.")

end GpioPin

end Periphery
