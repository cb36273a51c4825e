import Periphery.Syscall

/-!
# I2C buses and messages

An `I2C` object holds the descriptor of a bus device.  A transfer takes
messages by reference, writes one descriptor for each and passes the array of
descriptors to the kernel in a single request.
-/

namespace Periphery

/-! ## Constants of `linux/i2c.h` -/

def I2C_M_RD : BitVec 16 := 0x1
def I2C_FUNC_I2C : Word := 0x1

/-- The fields of an `I2C` object. -/
structure I2C where
  m_fd : Int
  m_path : String
deriving DecidableEq, Repr

namespace I2C

/-! ## Constructor and destructor -/

/-- `I2C::I2C`. -/
def construct (path : String) : Method I2C Unit := do
  let fd ← sysOpen path O_RDWR
  Routine.update ⟨fd, path⟩
  if fd < 0 then
    .raise badAddress
  let (error, supported_funcs) ← sysIoctl fd .i2cFuncs
  if error < 0 then
    let _ ← sysClose fd
    .raise badAddress
  if supported_funcs &&& I2C_FUNC_I2C = 0 then
    let _ ← sysClose fd
    .raise (.runtimeError "I2C not supported on ???")

/-- `I2C::~I2C`. -/
def destruct : Method I2C Unit := do
  let i2c ← Routine.self
  let _ ← sysClose i2c.m_fd
  return ()

/-! ## Messages -/

/-- The fields of an `I2C::Message` object. -/
structure Message where
  flags : BitVec 16
  data : List Byte
deriving DecidableEq, Repr

namespace Message

/-- `Message::write`, from a list or from a vector. -/
def write (tx_data : List Byte) : Message :=
  { flags := 0, data := tx_data }

/-- `Message::read`. -/
def read (len : Nat) : Message :=
  { flags := I2C_M_RD, data := List.replicate len 0 }

end Message

/-- The message objects of the caller; references are their names. -/
abbrev Messages := Nat → Message

/-! ## Transfers -/

/-- The descriptor that the loop of `transfer_impl` writes for a message. -/
def descriptor (objects : Messages) (addr : BitVec 16)
    (message : Nat) : I2cMsg where
  addr := addr
  flags := (objects message).flags
  len := BitVec.ofNat 16 (objects message).data.length
  buf := message

/-- `I2C::transfer_impl`. -/
def transferImpl (objects : Messages) (addr : BitVec 16)
    (messages : List Nat) : Method I2C Unit := do
  let i2c ← Routine.self
  let count : BitVec 32 := BitVec.ofNat 32 messages.length
  let p := (messages.take count.toNat).map (descriptor objects addr)
  let error ← sysIoctl i2c.m_fd (.i2cRdwr p)
  if error < 0 then
    .raise badAddress

/-- `I2C::transfer` for an initializer list. -/
def transferList (objects : Messages) (addr : BitVec 16)
    (messages : List Nat) : Method I2C Unit :=
  transferImpl objects addr messages

/-- `I2C::transfer` for a vector of references. -/
def transferVector (objects : Messages) (addr : BitVec 16)
    (messages : List Nat) : Method I2C Unit :=
  transferImpl objects addr messages

/-- `I2C::transfer` for an argument list. -/
def transferArguments (objects : Messages) (addr : BitVec 16)
    (messages : List Nat) : Method I2C Unit :=
  transferList objects addr messages

/-- The loop that collects references to the messages of a range. -/
def collect (collected : List Nat) : List Nat → List Nat
  | [] => collected
  | message :: rest => collect (collected ++ [message]) rest

/-- `I2C::transfer` for an iterator range. -/
def transferRange (objects : Messages) (addr : BitVec 16)
    (messages : List Nat) : Method I2C Unit :=
  transferVector objects addr (collect [] messages)

/-- The public forms of a transfer. -/
inductive Overload where
  | arguments
  | initializerList
  | iteratorRange
deriving DecidableEq, Repr

/-- The member function that a form of transfer runs. -/
def Overload.transfer (objects : Messages) (addr : BitVec 16)
    (messages : List Nat) : Overload → Method I2C Unit
  | .arguments => transferArguments objects addr messages
  | .initializerList => transferList objects addr messages
  | .iteratorRange => transferRange objects addr messages

theorem collect_eq_append (collected messages : List Nat) :
    collect collected messages = collected ++ messages := by
  induction messages generalizing collected with
  | nil => rw [collect, List.append_nil]
  | cons message rest induction =>
      rw [collect, induction, List.append_assoc, List.singleton_append]

/-- All public forms reach the same loop over the same messages. -/
theorem transfer_eq_transferImpl
    (overload : Overload) (objects : Messages) (addr : BitVec 16)
    (messages : List Nat) :
    overload.transfer objects addr messages =
      transferImpl objects addr messages := by
  cases overload with
  | arguments => rfl
  | initializerList => rfl
  | iteratorRange =>
      rw [Overload.transfer, transferRange, collect_eq_append,
        List.nil_append, transferVector]

end I2C

end Periphery
