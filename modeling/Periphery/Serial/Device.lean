import Periphery.Syscall

/-!
# Serial ports

The constructor of `Serial` translates its arguments to terminal settings,
opens the port and applies the settings.  An argument that has no translation
is rejected before the port is opened.
-/

namespace Periphery

/-! ## Constants of `termios.h` -/

def IGNBRK : BitVec 32 := 0x0001
def INPCK : BitVec 32 := 0x0010
def ISTRIP : BitVec 32 := 0x0020
def IXON : BitVec 32 := 0x0400
def IXOFF : BitVec 32 := 0x1000
def IBAUD0 : BitVec 32 := 0x80000000

def CS5 : BitVec 32 := 0x0000
def CS6 : BitVec 32 := 0x0010
def CS7 : BitVec 32 := 0x0020
def CS8 : BitVec 32 := 0x0030
def CSTOPB : BitVec 32 := 0x0040
def CREAD : BitVec 32 := 0x0080
def PARENB : BitVec 32 := 0x0100
def PARODD : BitVec 32 := 0x0200
def CLOCAL : BitVec 32 := 0x0800
def CRTSCTS : BitVec 32 := 0x80000000
def CBAUD : BitVec 32 := 0x100f
def CBAUDEX : BitVec 32 := 0x1000

/-! ## Speeds -/

namespace Termios

/-- The control flags with a speed in place of their own. -/
def flagsAt (c_cflag speed : BitVec 32) : BitVec 32 :=
  c_cflag &&& ~~~(CBAUD ||| CBAUDEX) ||| speed

/-- `cfsetospeed`, for one of the speeds of `termios.h`. -/
def cfsetospeed (settings : Termios) (speed : BitVec 32) : Termios :=
  { settings with
    c_cflag := flagsAt settings.c_cflag speed
    ospeed := speed }

/--
`cfsetispeed`, for one of the speeds of `termios.h`.  There is one field of
bits for both speeds; zero asks for the speed of the output, and leaves them.
-/
def cfsetispeed (settings : Termios) (speed : BitVec 32) : Termios :=
  if speed = 0 then
    { settings with
      c_iflag := settings.c_iflag ||| IBAUD0
      ispeed := speed }
  else
    { settings with
      c_iflag := settings.c_iflag &&& ~~~IBAUD0
      c_cflag := flagsAt settings.c_cflag speed
      ispeed := speed }

end Termios

/-- The fields of a `Serial` object. -/
structure Serial where
  fd_ : Int
deriving DecidableEq, Repr

namespace Serial

/-!
The constructor rejects values of its enumerations that are none of the
enumerators; `other` stands for such a value.
-/

inductive DataBits where
  | five
  | six
  | seven
  | eight
  | other (value : Int)
deriving DecidableEq, Repr

inductive StopBits where
  | one
  | two
  | other (value : Int)
deriving DecidableEq, Repr

inductive Parity where
  | none
  | even
  | odd
  | other (value : Int)
deriving DecidableEq, Repr

inductive Handshake where
  | none
  | rtsCts
  | xonXoff
  | rtsCtsXonXoff
  | other (value : Int)
deriving DecidableEq, Repr

/-! ## Terminal settings -/

/-- The `c_iflag` that the constructor starts from. -/
def inputFlags (parity : Parity) (handshake : Handshake) : BitVec 32 :=
  IGNBRK ||| (if parity ≠ .none then INPCK ||| ISTRIP else 0) |||
    (if handshake = .xonXoff then IXON ||| IXOFF else 0) |||
    (if handshake = .rtsCtsXonXoff then IXON ||| IXOFF else 0)

/-- The switch over the data bits. -/
def DataBits.flags : DataBits → Except Exception (BitVec 32)
  | .five => .ok CS5
  | .six => .ok CS6
  | .seven => .ok CS7
  | .eight => .ok CS8
  | .other _ => .error (.invalidArgument "databits invalid")

/-- The switch over the parity. -/
def Parity.flags : Parity → Except Exception (BitVec 32)
  | .even => .ok PARENB
  | .odd => .ok (PARENB ||| PARODD)
  | .none => .ok 0
  | .other _ => .error (.invalidArgument "parity invalid")

/-- The switch over the stop bits. -/
def StopBits.flags : StopBits → Except Exception (BitVec 32)
  | .two => .ok CSTOPB
  | .one => .ok 0
  | .other _ => .error (.invalidArgument "stopbits invalid")

/-- The switch over the handshake. -/
def Handshake.flags : Handshake → Except Exception (BitVec 32)
  | .rtsCts => .ok CRTSCTS
  | .rtsCtsXonXoff => .ok CRTSCTS
  | .none => .ok 0
  | .xonXoff => .ok 0
  | .other _ => .error (.invalidArgument "handshake invalid")

/-- The baud rates of `baudrate_to_bits`, with their `speed_t` values. -/
def baudrates : List (BitVec 32 × BitVec 32) :=
  [(50, 0x1), (75, 0x2), (110, 0x3), (134, 0x4), (150, 0x5),
    (200, 0x6), (300, 0x7), (600, 0x8), (1200, 0x9), (1800, 0xa),
    (2400, 0xb), (4800, 0xc), (9600, 0xd), (19200, 0xe),
    (38400, 0xf), (57600, 0x1001), (115200, 0x1002),
    (230400, 0x1003), (460800, 0x1004), (500000, 0x1005),
    (576000, 0x1006), (921600, 0x1007), (1000000, 0x1008),
    (1152000, 0x1009), (1500000, 0x100a), (2000000, 0x100b),
    (2500000, 0x100c), (3000000, 0x100d), (3500000, 0x100e),
    (4000000, 0x100f)]

/-- `baudrate_to_bits`. -/
def baudrateToBits (baudrate : BitVec 32) :
    Except Exception (BitVec 32) :=
  match baudrates.lookup baudrate with
  | some bits => .ok bits
  | none => .error (.invalidArgument "baudrate invalid")

/-- The `termios` structure that the constructor fills in. -/
def settings (baudrate : BitVec 32) (databits : DataBits)
    (parity : Parity) (stopbits : StopBits) (handshake : Handshake) :
    Except Exception Termios := do
  let databitsFlags ← databits.flags
  let parityFlags ← parity.flags
  let stopbitsFlags ← stopbits.flags
  let handshakeFlags ← handshake.flags
  let settings : Termios := {
    c_iflag := inputFlags parity handshake
    c_oflag := 0
    c_cflag :=
      CREAD ||| CLOCAL ||| databitsFlags ||| parityFlags |||
        stopbitsFlags ||| handshakeFlags
    c_lflag := 0
    ispeed := 0
    ospeed := 0 }
  let ispeed ← baudrateToBits baudrate
  let settings := settings.cfsetispeed ispeed
  let ospeed ← baudrateToBits baudrate
  return settings.cfsetospeed ospeed

/-! ## Constructors and destructor -/

/-- `Serial::Serial` with all of its arguments. -/
def construct (path : String) (baudrate : BitVec 32)
    (databits : DataBits) (parity : Parity) (stopbits : StopBits)
    (handshake : Handshake) : Method Serial Unit := do
  let settings ←
    Routine.ofExcept
      (settings baudrate databits parity stopbits handshake)
  let fd ← sysOpen path (O_RDWR ||| O_NOCTTY ||| O_NDELAY)
  Routine.update ⟨fd⟩
  if fd < 0 then
    .raise badAddress
  let error ← sysTcsetattr fd settings
  if error < 0 then
    let _ ← sysClose fd
    .raise badAddress

/-- `Serial::Serial` without handshake. -/
def constructPlain (path : String) (baudrate : BitVec 32)
    (databits : DataBits) (parity : Parity) (stopbits : StopBits) :
    Method Serial Unit :=
  construct path baudrate databits parity stopbits .none

/-- `Serial::Serial` for eight data bits without parity. -/
def constructDefault (path : String) (baudrate : BitVec 32) :
    Method Serial Unit :=
  construct path baudrate .eight .none .one .none

/-- `Serial::~Serial`. -/
def destruct : Method Serial Unit := do
  let serial ← Routine.self
  let _ ← sysClose serial.fd_
  return ()

end Serial

end Periphery
