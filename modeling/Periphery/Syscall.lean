import Mathlib.Algebra.Group.Int.Defs
import Mathlib.Algebra.Group.Nat.Defs
import Periphery.Routine.Basic

/-!
# The kernel interface of the library

The library is a thin layer over POSIX and Linux calls.  This module lists
the calls it makes, with the data each one carries in and out, the constants
of the system headers it passes, the integer conversions that C++ applies on
the way, and the exceptions that leave the library.

A call that fails answers a negative number.  Whether it may fail, and what
it does to the system, is left to the kernel models of later modules.
-/

namespace Periphery

/-- One byte of memory, of a register or of a stream. -/
abbrev Byte := BitVec 8

/-- `size_t` and `uintptr_t`: arithmetic is modulo `2 ^ 64`. -/
abbrev Word := BitVec 64

/-! ## Exceptions -/

/-- The exceptions the library throws. -/
inductive Exception where
  | systemError (code : Int) (what : String)
  | invalidArgument (what : String)
  | runtimeError (what : String)
deriving DecidableEq, Repr

/-- `EFAULT`, the code of almost every `std::system_error` thrown here. -/
def efault : Int := 14

/-- `std::system_error(EFAULT, std::system_category())`. -/
def badAddress : Exception := .systemError efault ""

/-! ## Integer conversions -/

/-- Conversion of a signed integer to `size_t`. -/
def toSizeT (value : Int) : Nat := (value % 2 ^ 64).toNat

/-- Conversion of a wider integer to `int`. -/
def toInt (value : Int) : Int := value.bmod (2 ^ 32)

theorem toSizeT_natCast
    {count : Nat} (small : count < 2 ^ 64) :
    toSizeT count = count := by
  rw [toSizeT]
  omega

theorem toInt_of_bounded
    {value : Int} (nonneg : 0 ≤ value) (small : value < 2 ^ 31) :
    toInt value = value := by
  apply Int.bmod_eq_of_le <;> omega

theorem toInt_neg_iff (value : Int) :
    toInt value < 0 ↔ 2 ^ 31 ≤ value % 2 ^ 32 := by
  rw [toInt, Int.bmod_def]
  split <;> omega

theorem toInt_eq_iff {value : Int} (nonneg : 0 ≤ value) :
    toInt value = value ↔ value < 2 ^ 31 := by
  rw [toInt, Int.bmod_def]
  split <;> omega

/-! ## Data passed to and from the kernel -/

/-- `struct timeval`. -/
structure Timeval where
  tv_sec : Int
  tv_usec : Int
deriving DecidableEq, Inhabited, Repr

/-- The fields of `struct termios` that the library fills in. -/
structure Termios where
  c_iflag : BitVec 32
  c_oflag : BitVec 32
  c_cflag : BitVec 32
  c_lflag : BitVec 32
  ispeed : BitVec 32
  ospeed : BitVec 32
deriving DecidableEq, Repr

/-- `struct i2c_msg`; the buffer is named by the message that owns it. -/
structure I2cMsg where
  addr : BitVec 16
  flags : BitVec 16
  len : BitVec 16
  buf : Nat
deriving DecidableEq, Repr

/-- `struct spi_ioc_transfer`. -/
structure SpiIocTransfer where
  tx_buf : Word
  rx_buf : Word
  len : BitVec 32
  speed_hz : BitVec 32
  delay_usecs : BitVec 16
  bits_per_word : Byte
  cs_change : Byte
deriving DecidableEq, Repr

/-- The input part of `struct gpiohandle_request`. -/
structure GpiohandleRequest where
  lineoffsets : Vector (BitVec 32) 64
  flags : BitVec 32
  default_values : Vector Byte 64
  consumer_label : Vector Byte 32
  lines : BitVec 32
deriving DecidableEq, Repr

/-- The input part of `struct gpioevent_request`. -/
structure GpioeventRequest where
  lineoffset : BitVec 32
  handleflags : BitVec 32
  eventflags : BitVec 32
  consumer_label : Vector Byte 32
deriving DecidableEq, Repr

/-! ## Calls -/

/-- The `ioctl` requests of the library, with the data they pass in. -/
inductive Ioctl where
  | spiIocWrMode (mode : Byte)
  | spiIocRdMode
  | spiIocWrLsbFirst (value : Byte)
  | spiIocRdLsbFirst
  | spiIocWrBitsPerWord (bits_per_word : Byte)
  | spiIocRdBitsPerWord
  | spiIocWrMaxSpeedHz (speed : BitVec 32)
  | spiIocRdMaxSpeedHz
  | spiIocMessage (transfer : SpiIocTransfer)
  | i2cFuncs
  | i2cRdwr (msgs : List I2cMsg)
  | gpioGetChipinfo
  | gpioGetLinehandle (request : GpiohandleRequest)
  | gpioGetLineevent (request : GpioeventRequest)
  | gpiohandleGetLineValues
  | gpiohandleSetLineValues (value : Byte)
  | tiocinq
  | tiocoutq
deriving DecidableEq, Repr

/-- The return value of `ioctl`, with the data the kernel passes out. -/
abbrev Ioctl.Answer : Ioctl → Type
  | .spiIocRdMode => Int × Byte
  | .spiIocRdLsbFirst => Int × Byte
  | .spiIocRdBitsPerWord => Int × Byte
  | .spiIocRdMaxSpeedHz => Int × BitVec 32
  | .i2cFuncs => Int × Word
  -- The second component is the `fd` field of the request.
  | .gpioGetLinehandle _ => Int × Int
  | .gpioGetLineevent _ => Int × Int
  | .gpiohandleGetLineValues => Int × Byte
  | .tiocinq => Int × BitVec 32
  | .tiocoutq => Int × BitVec 32
  | _ => Int

/-- The calls of the library. -/
inductive Syscall where
  | open (path : String) (flags : BitVec 32)
  | close (fd : Int)
  | ioctl (fd : Int) (request : Ioctl)
  | tcsetattr (fd : Int) (settings : Termios)
  | tcdrain (fd : Int)
  | sysconfPagesize
  | mmap (length : Word) (fd : Int) (offset : Word)
  | munmap (address : Word) (length : Word)
  | read (fd : Int) (data : Nat) (count : Nat)
  | write (fd : Int) (data : Nat) (count : Nat)
  | select (fd : Int) (timeout : Timeval)
  -- One descriptor, with the events waited for and the timeout in ms.
  | poll (fd : Int) (events : BitVec 16) (timeout : Int)
deriving DecidableEq, Repr

/-- What each call answers. -/
abbrev Syscall.Answer : Syscall → Type
  | .ioctl _ request => request.Answer
  | .sysconfPagesize => Word
  -- The address of the new mapping, or `MAP_FAILED`.
  | .mmap .. => Word
  -- The kernel updates the time left in place.
  | .select .. => Int × Timeval
  | _ => Int

instance (request : Ioctl) : Inhabited request.Answer :=
  ⟨by cases request <;> exact default⟩

instance (request : Syscall) : Inhabited request.Answer :=
  ⟨by cases request <;> exact default⟩

/-- The interface that the routines of the library are written over. -/
abbrev posix : Interface where
  Call := Syscall
  Answer := Syscall.Answer

instance (request : posix.Call) : Inhabited (posix.Answer request) :=
  inferInstanceAs (Inhabited (Syscall.Answer request))

/-- A member function of an object with the given fields. -/
abbrev Method (Fields Value : Type) :=
  Routine posix Fields Exception Value

/-- `MAP_FAILED`, that is `(void *) -1`. -/
def mapFailed : Word := -1

/-! ## Flags of `open` -/

def O_RDONLY : BitVec 32 := 0x0
def O_WRONLY : BitVec 32 := 0x1
def O_RDWR : BitVec 32 := 0x2
def O_NOCTTY : BitVec 32 := 0x100
def O_NDELAY : BitVec 32 := 0x800

/-! ## Events of `poll` -/

def POLLIN : BitVec 16 := 0x0001
def POLLPRI : BitVec 16 := 0x0002

/-! ## Calls as routines -/

section Calls

variable {Fields : Type}

def sysOpen (path : String) (flags : BitVec 32) :
    Method Fields Int :=
  Routine.call (.open path flags) .done

def sysClose (fd : Int) : Method Fields Int :=
  Routine.call (.close fd) .done

def sysIoctl (fd : Int) (request : Ioctl) :
    Method Fields request.Answer :=
  Routine.call (.ioctl fd request) .done

def sysTcsetattr (fd : Int) (settings : Termios) :
    Method Fields Int :=
  Routine.call (.tcsetattr fd settings) .done

def sysconfPagesize : Method Fields Word :=
  Routine.call .sysconfPagesize .done

def sysMmap (length : Word) (fd : Int) (offset : Word) :
    Method Fields Word :=
  Routine.call (.mmap length fd offset) .done

def sysMunmap (address length : Word) : Method Fields Int :=
  Routine.call (.munmap address length) .done

def sysRead (fd : Int) (data count : Nat) : Method Fields Int :=
  Routine.call (.read fd data count) .done

def sysWrite (fd : Int) (data count : Nat) : Method Fields Int :=
  Routine.call (.write fd data count) .done

def sysSelect (fd : Int) (timeout : Timeval) :
    Method Fields (Int × Timeval) :=
  Routine.call (.select fd timeout) .done

def sysPoll (fd : Int) (events : BitVec 16) (timeout : Int) :
    Method Fields Int :=
  Routine.call (.poll fd events timeout) .done

end Calls

end Periphery
