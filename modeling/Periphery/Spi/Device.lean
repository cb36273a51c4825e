import Periphery.Syscall

/-!
# SPI devices

An `Spi` object holds the descriptor of a spidev device.  Mode and bit order
live in one byte of the device; the mode is read and written as that byte,
the bit order through requests of its own.  A transfer is one request with a
descriptor of the two buffers.
-/

namespace Periphery

/-! ## Constants of `linux/spi/spidev.h` -/

def SPI_CPHA : Byte := 0x01
def SPI_CPOL : Byte := 0x02
def SPI_LSB_FIRST : Byte := 0x08

/-- The fields of an `Spi` object. -/
structure Spi where
  m_fd : Int
deriving DecidableEq, Repr

namespace Spi

inductive BitOrder where
  | msbFirst
  | lsbFirst
deriving DecidableEq, Repr

inductive Mode where
  | zero
  | one
  | two
  | three
deriving DecidableEq, Repr

/-- `static_cast<uint8_t>(mode)`. -/
def Mode.toByte : Mode → Byte
  | .zero => 0
  | .one => 1
  | .two => 2
  | .three => 3

/-- `static_cast<Mode>(data8)`, for a byte without other bits. -/
def Mode.ofByte (data8 : Byte) : Mode :=
  if data8 = 0 then .zero
  else if data8 = 1 then .one
  else if data8 = 2 then .two
  else .three

/-! ## Constructors and destructor -/

/-- The mode byte that the constructor writes. -/
def initialFlags (mode : Mode) (bit_order : BitOrder)
    (extra_flags : Byte) : Byte :=
  mode.toByte ||| (if bit_order = .lsbFirst then SPI_LSB_FIRST else 0) |||
    extra_flags

/-- One of the requests of the constructor: a failure closes the device. -/
def configure (fd error : Int) : Method Spi Unit := do
  if error < 0 then
    let _ ← sysClose fd
    .raise badAddress

/-- `Spi::Spi` with extra flags. -/
def construct (path : String) (mode : Mode) (bit_order : BitOrder)
    (speed : BitVec 32) (bits_per_word extra_flags : Byte) :
    Method Spi Unit := do
  let fd ← sysOpen path O_RDWR
  Routine.update ⟨fd⟩
  if fd < 0 then
    .raise badAddress
  let flags := initialFlags mode bit_order extra_flags
  let error ← sysIoctl fd (.spiIocWrMode flags)
  configure fd error
  let error ← sysIoctl fd (.spiIocWrMaxSpeedHz speed)
  configure fd error
  let error ← sysIoctl fd (.spiIocWrBitsPerWord bits_per_word)
  configure fd error

/-- `Spi::Spi` without extra flags. -/
def constructPlain (path : String) (mode : Mode) (bit_order : BitOrder)
    (speed : BitVec 32) (bits_per_word : Byte) : Method Spi Unit :=
  construct path mode bit_order speed bits_per_word 0

/-- `Spi::Spi` for words of eight bits. -/
def constructOctets (path : String) (mode : Mode)
    (bit_order : BitOrder) (speed : BitVec 32) : Method Spi Unit :=
  construct path mode bit_order speed 8 0

/-- `Spi::~Spi`. -/
def destruct : Method Spi Unit := do
  let spi ← Routine.self
  let _ ← sysClose spi.m_fd
  return ()

/-! ## Setters -/

/-- `ioctl_with_throw`, from the answer to a request that writes. -/
def ioctlWithThrow (error : Int) : Method Spi Unit := do
  if error < 0 then
    .raise badAddress

theorem ioctlWithThrow_of_failed {error : Int} (failed : error < 0) :
    ioctlWithThrow error = .raise badAddress := by
  simp only [ioctlWithThrow, if_pos failed]

theorem ioctlWithThrow_of_accepted {error : Int} (accepted : 0 ≤ error) :
    ioctlWithThrow error = .done () := by
  simp only [ioctlWithThrow, if_neg (Int.not_lt.mpr accepted)]
  rfl

/--
`ioctl_get_wt`, from the answer to a request that reads.  The getters take
the same steps without it.
-/
def ioctlGet {Register : Type} (answer : Int × Register) :
    Method Spi Register := do
  if answer.1 < 0 then
    .raise badAddress
  return answer.2

/-- `Spi::mode(Mode)`. -/
def setMode (mode : Mode) : Method Spi Unit := do
  let spi ← Routine.self
  let data8 ← ioctlGet (← sysIoctl spi.m_fd .spiIocRdMode)
  let data8 := data8 &&& ~~~(SPI_CPOL ||| SPI_CPHA)
  let data8 := data8 ||| mode.toByte
  ioctlWithThrow (← sysIoctl spi.m_fd (.spiIocWrMode data8))

/-- `Spi::bit_order(BitOrder)`. -/
def setBitOrder (bit_order : BitOrder) : Method Spi Unit := do
  let spi ← Routine.self
  let data8 : Byte := if bit_order = .lsbFirst then 1 else 0
  ioctlWithThrow (← sysIoctl spi.m_fd (.spiIocWrLsbFirst data8))

/-- `Spi::bits_per_word(uint8_t)`. -/
def setBitsPerWord (bits_per_word : Byte) : Method Spi Unit := do
  let spi ← Routine.self
  ioctlWithThrow
    (← sysIoctl spi.m_fd (.spiIocWrBitsPerWord bits_per_word))

/-- `Spi::speed(uint32_t)`. -/
def setSpeed (speed : BitVec 32) : Method Spi Unit := do
  let spi ← Routine.self
  ioctlWithThrow (← sysIoctl spi.m_fd (.spiIocWrMaxSpeedHz speed))

/-! ## Getters -/

/-- `Spi::mode()`. -/
def mode : Method Spi Mode := do
  let spi ← Routine.self
  let data8 ← ioctlGet (← sysIoctl spi.m_fd .spiIocRdMode)
  let data8 := data8 &&& (SPI_CPOL ||| SPI_CPHA)
  return .ofByte data8

/-- `Spi::bit_order()`. -/
def bitOrder : Method Spi BitOrder := do
  let spi ← Routine.self
  let data8 ← ioctlGet (← sysIoctl spi.m_fd .spiIocRdLsbFirst)
  return if data8 &&& SPI_LSB_FIRST = 0 then .msbFirst else .lsbFirst

/-- `Spi::speed()`. -/
def speed : Method Spi (BitVec 32) := do
  let spi ← Routine.self
  ioctlGet (← sysIoctl spi.m_fd .spiIocRdMaxSpeedHz)

/-- `Spi::bits_per_word()`. -/
def bitsPerWord : Method Spi Byte := do
  let spi ← Routine.self
  ioctlGet (← sysIoctl spi.m_fd .spiIocRdBitsPerWord)

/-! ## Transfer -/

/-- `Spi::transfer`, with the addresses of the two buffers. -/
def transfer (txbuf rxbuf len : Word) : Method Spi Unit := do
  let spi ← Routine.self
  let spi_xfer : SpiIocTransfer :=
    { tx_buf := txbuf
      rx_buf := rxbuf
      len := len.setWidth 32
      delay_usecs := 0
      speed_hz := 0
      bits_per_word := 0
      cs_change := 0 }
  ioctlWithThrow (← sysIoctl spi.m_fd (.spiIocMessage spi_xfer))

end Spi

end Periphery
