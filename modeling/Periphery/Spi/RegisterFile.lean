import Periphery.Spi.Device

/-!
# The register file of a spidev device

The driver is a file of three registers: a mode byte, a clock speed and a
word length.  The requests for the bit order act on one bit of the mode byte
and carry it as zero or one.
-/

namespace Periphery.Spi

/-! ## The driver -/

/-- The registers of the device. -/
structure Registers where
  mode : Byte
  speed : BitVec 32
  bitsPerWord : Byte
deriving DecidableEq, Repr

/-- A request that writes succeeds, or it fails and changes nothing. -/
def Writes (registers written : Registers) (error : Int)
    (registers' : Registers) : Prop :=
  error < 0 ∧ registers' = registers ∨
    0 ≤ error ∧ registers' = written

/-- A request that reads answers the contents unless it fails. -/
def Reads {Register : Type} (registers : Registers)
    (contents : Register) (answer : Int × Register)
    (registers' : Registers) : Prop :=
  registers' = registers ∧ (0 ≤ answer.1 → answer.2 = contents)

/-- The driver as a kernel. -/
def registerFile : Kernel posix Registers :=
  fun registers request answer registers' =>
    match request, answer with
    | .ioctl _ (.spiIocWrMode mode), error =>
        Writes registers { registers with mode := mode }
          error registers'
    | .ioctl _ (.spiIocWrLsbFirst value), error =>
        Writes registers
          { registers with
            mode :=
              if value ≠ 0 then registers.mode ||| SPI_LSB_FIRST
              else registers.mode &&& ~~~SPI_LSB_FIRST }
          error registers'
    | .ioctl _ (.spiIocWrMaxSpeedHz speed), error =>
        Writes registers { registers with speed := speed }
          error registers'
    | .ioctl _ (.spiIocWrBitsPerWord bits_per_word), error =>
        Writes registers { registers with bitsPerWord := bits_per_word }
          error registers'
    | .ioctl _ .spiIocRdMode, answer =>
        Reads registers registers.mode answer registers'
    | .ioctl _ .spiIocRdLsbFirst, answer =>
        Reads registers
          (if registers.mode &&& SPI_LSB_FIRST ≠ 0 then 1 else 0)
          answer registers'
    | .ioctl _ .spiIocRdMaxSpeedHz, answer =>
        Reads registers registers.speed answer registers'
    | .ioctl _ .spiIocRdBitsPerWord, answer =>
        Reads registers registers.bitsPerWord answer registers'
    | _, _ => registers' = registers

/-! ## The mode byte -/

/-- The bits of the mode byte that encode the mode and the bit order. -/
def ownBits : Byte := SPI_CPOL ||| SPI_CPHA ||| SPI_LSB_FIRST

/-- The bit order as it stands in the mode byte. -/
def BitOrder.toByte : BitOrder → Byte
  | .msbFirst => 0
  | .lsbFirst => SPI_LSB_FIRST

/-- The mode byte for given settings and extra flags. -/
def modeByte (mode : Mode) (bitOrder : BitOrder) (extra : Byte) :
    Byte :=
  mode.toByte ||| bitOrder.toByte ||| (extra &&& ~~~ownBits)

theorem modeByte_and
    (mode : Mode) (bitOrder : BitOrder) (extra mask : Byte) :
    modeByte mode bitOrder extra &&& mask =
      mode.toByte &&& mask ||| bitOrder.toByte &&& mask |||
        extra &&& (~~~ownBits &&& mask) := by
  rw [modeByte, BitVec.and_or_distrib_right,
    BitVec.and_or_distrib_right, BitVec.and_assoc extra]

theorem modeByte_and_mode
    (mode : Mode) (bitOrder : BitOrder) (extra : Byte) :
    modeByte mode bitOrder extra &&& (SPI_CPOL ||| SPI_CPHA) =
      mode.toByte := by
  have others : ~~~ownBits &&& (SPI_CPOL ||| SPI_CPHA) = 0 := by decide
  rw [modeByte_and, others]
  cases mode <;> cases bitOrder <;> simp <;> decide

/-- Replacing the mode bits, as the setter of the mode does. -/
theorem modeByte_replace_mode
    (mode value : Mode) (bitOrder : BitOrder) (extra : Byte) :
    modeByte mode bitOrder extra &&& ~~~(SPI_CPOL ||| SPI_CPHA) |||
        value.toByte =
      modeByte value bitOrder extra := by
  have others :
      ~~~ownBits &&& ~~~(SPI_CPOL ||| SPI_CPHA) = ~~~ownBits := by
    decide
  have cleared :
      mode.toByte &&& ~~~(SPI_CPOL ||| SPI_CPHA) = 0#8 := by
    cases mode <;> decide
  have kept :
      bitOrder.toByte &&& ~~~(SPI_CPOL ||| SPI_CPHA) =
        bitOrder.toByte := by
    cases bitOrder <;> decide
  rw [modeByte_and, others, cleared, kept, BitVec.zero_or,
    BitVec.or_comm, modeByte, BitVec.or_assoc]

/-- Setting or clearing the bit of the bit order, as the driver does. -/
theorem modeByte_replace_lsbFirst
    (mode : Mode) (bitOrder value : BitOrder) (extra : Byte) :
    (if (if value = .lsbFirst then 1 else 0 : Byte) ≠ 0 then
        modeByte mode bitOrder extra ||| SPI_LSB_FIRST
      else modeByte mode bitOrder extra &&& ~~~SPI_LSB_FIRST) =
      modeByte mode value extra := by
  cases value with
  | msbFirst =>
      have others :
          ~~~ownBits &&& ~~~SPI_LSB_FIRST = ~~~ownBits := by decide
      rw [if_neg (by decide), modeByte_and, others, modeByte]
      cases mode <;> cases bitOrder <;> rfl
  | lsbFirst =>
      rw [if_pos (by decide), modeByte, modeByte]
      cases bitOrder with
      | msbFirst =>
          rw [BitVec.or_assoc, BitVec.or_comm _ SPI_LSB_FIRST,
            ← BitVec.or_assoc]
          simp [BitOrder.toByte]
      | lsbFirst =>
          rw [BitVec.or_assoc, BitVec.or_comm _ SPI_LSB_FIRST,
            ← BitVec.or_assoc, BitVec.or_assoc mode.toByte,
            show BitOrder.lsbFirst.toByte = SPI_LSB_FIRST from rfl,
            BitVec.or_self]

/-- Without bits of its own, the extra flags stay as they are. -/
theorem initialFlags_eq_modeByte
    (mode : Mode) (bitOrder : BitOrder) {extra : Byte}
    (clear : extra &&& ownBits = 0) :
    initialFlags mode bitOrder extra = modeByte mode bitOrder extra := by
  have kept : extra &&& ~~~ownBits = extra := by
    have every : ownBits ||| ~~~ownBits = BitVec.allOnes 8 := by decide
    calc
      extra &&& ~~~ownBits
          = extra &&& ownBits ||| extra &&& ~~~ownBits := by
            rw [clear]
            exact (BitVec.zero_or).symm
      _ = extra := by
            rw [← BitVec.and_or_distrib_left, every,
              BitVec.and_allOnes]
  rw [initialFlags, modeByte, kept]
  cases bitOrder <;> rfl

theorem Mode.ofByte_toByte (mode : Mode) :
    Mode.ofByte mode.toByte = mode := by
  cases mode <;> rfl

end Periphery.Spi
