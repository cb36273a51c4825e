import Periphery.Syscall

/-!
# Character devices

A `CharacterDevice` object holds the descriptor of a device opened for
reading, for writing or for both.
-/

namespace Periphery

/-- The fields of a `CharacterDevice` object. -/
structure CharacterDevice where
  m_fd : Int
deriving DecidableEq, Repr

namespace CharacterDevice

/-- `other` stands for a value that is none of the enumerators. -/
inductive Access where
  | readOnly
  | writeOnly
  | readWrite
  | other (value : Int)
deriving DecidableEq, Repr

/-- The switch over the access. -/
def Access.flags : Access → Except Exception (BitVec 32)
  | .readOnly => .ok O_RDONLY
  | .writeOnly => .ok O_WRONLY
  | .readWrite => .ok O_RDWR
  | .other _ => .error (.invalidArgument "access invalid")

/-- `CharacterDevice::CharacterDevice`. -/
def construct (path : String) (access : Access) :
    Method CharacterDevice Unit := do
  let oflag ← Routine.ofExcept access.flags
  let fd ← sysOpen path (oflag ||| (O_NOCTTY ||| O_NDELAY))
  Routine.update ⟨fd⟩
  if fd < 0 then
    .raise badAddress

/-- `CharacterDevice::~CharacterDevice`. -/
def destruct : Method CharacterDevice Unit := do
  let device ← Routine.self
  let _ ← sysClose device.m_fd
  return ()

end CharacterDevice

end Periphery
