import Periphery.Bytes.ByteMemory
import Periphery.Bytes.LittleEndian
import Periphery.Syscall

/-!
# Memory-mapped registers

The class `Mmio` maps a window of physical memory and gives access to it in
registers of 8, 16 and 32 bits and in blocks.  Its offsets count from the
base that the caller asked for, while the mapping starts at the page that
holds the base; every access adds the displacement between the two.

All sizes and addresses are 64-bit words and all their arithmetic wraps.
-/

namespace Periphery

/-- The fields of an `Mmio` object. -/
structure Mmio where
  m_base : Word
  m_aligned_base : Word
  m_size : Word
  m_aligned_size : Word
  m_ptr : Word
deriving DecidableEq, Repr

namespace Mmio

/-! ## Constructor and destructor -/

/--
`Mmio::Mmio`.  The synchronisation flag of the source stands in the place of
the mode argument of `open`, which the call ignores.
-/
def construct (base size : Word) : Method Mmio Unit := do
  let fields ← Routine.self
  let page ← sysconfPagesize
  let aligned_base := base - base % page
  let fields : Mmio :=
    { fields with
      m_base := base
      m_size := size
      m_aligned_base := aligned_base
      m_aligned_size := size + (base - aligned_base) }
  Routine.update fields
  let fd ← sysOpen "/dev/mem" O_RDWR
  if fd < 0 then
    .raise badAddress
  let ptr ← sysMmap fields.m_aligned_size fd fields.m_aligned_base
  Routine.update { fields with m_ptr := ptr }
  if ptr = mapFailed then
    let _ ← sysClose fd
    .raise badAddress
  let error ← sysClose fd
  if error ≠ 0 then
    let _ ← sysMunmap ptr fields.m_aligned_size
    .raise badAddress

/-- `Mmio::~Mmio`. -/
def destruct : Method Mmio Unit := do
  let mmio ← Routine.self
  let _ ← sysMunmap mmio.m_ptr mmio.m_aligned_size
  return ()

/-! ## Access to the mapped memory -/

/-- One access to memory through a pointer. -/
inductive Access where
  | load (address : Word) (count : Nat)
  | store (address : Word) (bytes : List Byte)
deriving DecidableEq, Repr

/-- Where an access starts. -/
def Access.address : Access → Word
  | .load address _ => address
  | .store address _ => address

/-- How many bytes an access reads or writes. -/
def Access.count : Access → Nat
  | .load _ count => count
  | .store _ bytes => bytes.length

/-- Plain loads and stores; a load answers the bytes it found. -/
abbrev memoryBus : Interface where
  Call := Access
  Answer
    | .load .. => List Byte
    | .store .. => Unit

/-- A member function of `Mmio` that accesses the mapped memory. -/
abbrev Accessor (Value : Type) :=
  Routine memoryBus Mmio Exception Value

def load (address : Word) (count : Nat) : Accessor (List Byte) :=
  Routine.call (.load address count) .done

def store (address : Word) (bytes : List Byte) : Accessor Unit :=
  Routine.call (.store address bytes) .done

/-- The displacement of the caller's base inside its page. -/
def displacement (mmio : Mmio) : Word :=
  mmio.m_base - mmio.m_aligned_base

/--
The body shared by the four templates and block functions: move the offset,
test it with the length, and access memory through the moved pointer.
-/
def guarded {Value : Type} (offset len : Word) (what : String)
    (access : Word → Accessor Value) : Accessor Value := do
  let mmio ← Routine.self
  let offset := offset + displacement mmio
  if offset + len > mmio.m_aligned_size then
    .raise (.invalidArgument what)
  access (mmio.m_ptr + offset)

/-- `Mmio::read<T>` for a register type of `width` bytes. -/
def readRegister (width : Nat) (offset : Word) :
    Accessor (BitVec (8 * width)) :=
  guarded offset (BitVec.ofNat 64 width) "offset out of bounds"
    fun pointer => do
      let bytes ← load pointer width
      return LittleEndian.decode width bytes

/-- `Mmio::write<T>` for a register type of `width` bytes. -/
def writeRegister (width : Nat) (offset : Word)
    (value : BitVec (8 * width)) : Accessor Unit :=
  guarded offset (BitVec.ofNat 64 width) "offset out of bounds"
    fun pointer => store pointer (LittleEndian.encode value)

/-- `Mmio::read`, the block form; the bytes go to the caller's buffer. -/
def readBlock (offset len : Word) : Accessor (List Byte) :=
  guarded offset len "read out of bounds"
    fun pointer => load pointer len.toNat

/-- `Mmio::write`, the block form, from the buffer at `buf`. -/
def writeBlock (offset : Word) (buf : ByteMemory) (len : Word) :
    Accessor Unit :=
  guarded offset len "write out of bounds"
    fun pointer => store pointer (buf.slice 0 len.toNat)

/-- A read of a register followed by a write of what `change` makes of it. -/
def modifyRegister (width : Nat) (offset : Word)
    (change : BitVec (8 * width) → BitVec (8 * width)) :
    Accessor Unit := do
  let value ← readRegister width offset
  writeRegister width offset (change value)

/-! ## The public accesses -/

def read32 (offset : Word) : Accessor (BitVec 32) :=
  readRegister 4 offset

def read16 (offset : Word) : Accessor (BitVec 16) :=
  readRegister 2 offset

def read8 (offset : Word) : Accessor (BitVec 8) :=
  readRegister 1 offset

def write32 (offset : Word) (value : BitVec 32) : Accessor Unit :=
  writeRegister 4 offset value

def write16 (offset : Word) (value : BitVec 16) : Accessor Unit :=
  writeRegister 2 offset value

def write8 (offset : Word) (value : BitVec 8) : Accessor Unit :=
  writeRegister 1 offset value

/-!
The complement of a narrow mask is taken after promotion to `int`.  The
bitwise and with a promoted register clears the bits above the register, so
narrowing the result back gives the complement at the width of the register.
-/

def clear32 (offset : Word) (mask : BitVec 32) : Accessor Unit :=
  modifyRegister 4 offset fun value => value &&& ~~~ mask

def clear16 (offset : Word) (mask : BitVec 16) : Accessor Unit :=
  modifyRegister 2 offset fun value => value &&& ~~~ mask

def clear8 (offset : Word) (mask : BitVec 8) : Accessor Unit :=
  modifyRegister 1 offset fun value => value &&& ~~~ mask

def set32 (offset : Word) (mask : BitVec 32) : Accessor Unit :=
  modifyRegister 4 offset fun value => value ||| mask

def set16 (offset : Word) (mask : BitVec 16) : Accessor Unit :=
  modifyRegister 2 offset fun value => value ||| mask

def set8 (offset : Word) (mask : BitVec 8) : Accessor Unit :=
  modifyRegister 1 offset fun value => value ||| mask

/-! ## Operations as data -/

/-- A call of one of the fourteen public accesses. -/
inductive Operation where
  | read32 (offset : Word)
  | read16 (offset : Word)
  | read8 (offset : Word)
  | readBlock (offset len : Word)
  | write32 (offset : Word) (value : BitVec 32)
  | write16 (offset : Word) (value : BitVec 16)
  | write8 (offset : Word) (value : BitVec 8)
  | writeBlock (offset : Word) (buf : ByteMemory) (len : Word)
  | clear32 (offset : Word) (mask : BitVec 32)
  | clear16 (offset : Word) (mask : BitVec 16)
  | clear8 (offset : Word) (mask : BitVec 8)
  | set32 (offset : Word) (mask : BitVec 32)
  | set16 (offset : Word) (mask : BitVec 16)
  | set8 (offset : Word) (mask : BitVec 8)

/-- What a call hands back: a register, the contents of a buffer, nothing. -/
inductive Reply where
  | register32 (value : BitVec 32)
  | register16 (value : BitVec 16)
  | register8 (value : BitVec 8)
  | block (bytes : List Byte)
  | unit
deriving DecidableEq, Repr

/-- The member function that a call runs. -/
def Operation.perform : Operation → Accessor Reply
  | .read32 offset => do return .register32 (← Mmio.read32 offset)
  | .read16 offset => do return .register16 (← Mmio.read16 offset)
  | .read8 offset => do return .register8 (← Mmio.read8 offset)
  | .readBlock offset len => do
      return .block (← Mmio.readBlock offset len)
  | .write32 offset value => do
      Mmio.write32 offset value
      return .unit
  | .write16 offset value => do
      Mmio.write16 offset value
      return .unit
  | .write8 offset value => do
      Mmio.write8 offset value
      return .unit
  | .writeBlock offset buf len => do
      Mmio.writeBlock offset buf len
      return .unit
  | .clear32 offset mask => do
      Mmio.clear32 offset mask
      return .unit
  | .clear16 offset mask => do
      Mmio.clear16 offset mask
      return .unit
  | .clear8 offset mask => do
      Mmio.clear8 offset mask
      return .unit
  | .set32 offset mask => do
      Mmio.set32 offset mask
      return .unit
  | .set16 offset mask => do
      Mmio.set16 offset mask
      return .unit
  | .set8 offset mask => do
      Mmio.set8 offset mask
      return .unit

/-- The offset that a call names. -/
def Operation.offset : Operation → Word
  | .read32 offset => offset
  | .read16 offset => offset
  | .read8 offset => offset
  | .readBlock offset _ => offset
  | .write32 offset _ => offset
  | .write16 offset _ => offset
  | .write8 offset _ => offset
  | .writeBlock offset _ _ => offset
  | .clear32 offset _ => offset
  | .clear16 offset _ => offset
  | .clear8 offset _ => offset
  | .set32 offset _ => offset
  | .set16 offset _ => offset
  | .set8 offset _ => offset

/-- The number of bytes that a call names. -/
def Operation.len : Operation → Word
  | .read32 _ => 4
  | .read16 _ => 2
  | .read8 _ => 1
  | .readBlock _ len => len
  | .write32 _ _ => 4
  | .write16 _ _ => 2
  | .write8 _ _ => 1
  | .writeBlock _ _ len => len
  | .clear32 _ _ => 4
  | .clear16 _ _ => 2
  | .clear8 _ _ => 1
  | .set32 _ _ => 4
  | .set16 _ _ => 2
  | .set8 _ _ => 1

/-! ## The rule of a guarded access -/

/-- The address of the byte at `offset` from the caller's base. -/
def pointer (mmio : Mmio) (offset : Word) : Word :=
  mmio.m_ptr + (offset + displacement mmio)

/-- The bounds test that guards an access of `len` bytes at `offset`. -/
def Passes (mmio : Mmio) (offset len : Word) : Prop :=
  ¬ offset + displacement mmio + len > mmio.m_aligned_size

@[simp]
theorem guarded_ensures_iff
    {Value State : Type} {kernel : Kernel memoryBus State}
    {post : Outcome Exception Value → Mmio → State → Prop}
    (offset len : Word) (what : String)
    (access : Word → Accessor Value) (mmio : Mmio) (state : State) :
    (guarded offset len what access).Ensures kernel post mmio state ↔
      (¬ Passes mmio offset len →
          post (.threw (.invalidArgument what)) mmio state) ∧
        (Passes mmio offset len →
          (access (pointer mmio offset)).Ensures
            kernel post mmio state) := by
  simp [guarded, Passes, pointer]

end Mmio

end Periphery
