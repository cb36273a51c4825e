import Periphery.Stream.Transfer

/-!
# Ports

The two classes with transfer functions, and their read functions as data.
What is shown of a port is shown of both classes.
-/

namespace Periphery

/-- A stream object. -/
inductive StreamPort where
  | serial (serial : Serial)
  | characterDevice (device : CharacterDevice)
deriving DecidableEq, Repr

/-- A call of one of the read functions. -/
inductive ReadCall where
  | read (buf : MutableBuffer)
  | readAll (buf : MutableBuffer)
  | readTimeout (buf : MutableBuffer) (timeout : Int)
  | readAllTimeout (buf : MutableBuffer) (timeout : Int)
deriving DecidableEq, Repr

namespace ReadCall

def buffer : ReadCall → MutableBuffer
  | .read buf => buf
  | .readAll buf => buf
  | .readTimeout buf _ => buf
  | .readAllTimeout buf _ => buf

/-- What the function returns. -/
abbrev Value : ReadCall → Type
  | .readAll _ => Unit
  | _ => Int

end ReadCall

namespace StreamPort

def fd : StreamPort → Int
  | .serial object => object.fd_
  | .characterDevice object => object.m_fd

/-- The function `poll` of the class. -/
def poll : StreamPort → Int → ConstMethod Bool
  | .serial object, timeout => object.poll timeout
  | .characterDevice object, timeout => object.poll timeout

/-- The function `write` of the class. -/
def write : StreamPort → ConstBuffer → ConstLoop Unit
  | .serial object, buf => object.write buf
  | .characterDevice object, buf => object.write buf

/-- The read functions of the class. -/
def perform : StreamPort → (call : ReadCall) → ConstLoop call.Value
  | .serial object, .read buf => .once (object.read buf)
  | .serial object, .readAll buf => object.readAll buf
  | .serial object, .readTimeout buf timeout =>
      .once (object.readTimeout buf timeout)
  | .serial object, .readAllTimeout buf timeout =>
      object.readAllTimeout buf timeout
  | .characterDevice object, .read buf => .once (object.read buf)
  | .characterDevice object, .readAll buf => object.readAll buf
  | .characterDevice object, .readTimeout buf timeout =>
      .once (object.readTimeout buf timeout)
  | .characterDevice object, .readAllTimeout buf timeout =>
      object.readAllTimeout buf timeout

/-! The functions of both classes are those of the descriptor. -/

theorem write_eq (port : StreamPort) (buffer : ConstBuffer) :
    port.write buffer = Stream.write port.fd buffer := by
  cases port with
  | serial object => rfl
  | characterDevice object => rfl

theorem poll_eq (port : StreamPort) (timeout : Int) :
    port.poll timeout = Stream.poll port.fd timeout := by
  cases port with
  | serial object => rfl
  | characterDevice object => rfl

theorem perform_read (port : StreamPort) (buffer : MutableBuffer) :
    port.perform (.read buffer) =
      .once (Stream.read port.fd buffer) := by
  cases port with
  | serial object => rfl
  | characterDevice object => rfl

theorem perform_readTimeout
    (port : StreamPort) (buffer : MutableBuffer) (timeout : Int) :
    port.perform (.readTimeout buffer timeout) =
      .once (Stream.readTimeout port.fd buffer timeout) := by
  cases port with
  | serial object => rfl
  | characterDevice object => rfl

theorem perform_readAll (port : StreamPort) (buffer : MutableBuffer) :
    port.perform (.readAll buffer) = Stream.readAll port.fd buffer := by
  cases port with
  | serial object => rfl
  | characterDevice object => rfl

theorem perform_readAllTimeout
    (port : StreamPort) (buffer : MutableBuffer) (timeout : Int) :
    port.perform (.readAllTimeout buffer timeout) =
      Stream.readAllTimeout port.fd buffer timeout := by
  cases port with
  | serial object => rfl
  | characterDevice object => rfl

end StreamPort

end Periphery
