import Periphery.Bytes.ByteMemory
import Periphery.Stream.Buffer

/-!
# Buffers of a client's objects

A client writes its buffers as expressions: `buffer` of an array, a vector or
a string, possibly limited to some bytes, moved by some bytes, and so on
again.  Reading through such a buffer is cutting up the bytes of the object
as a list, and storing through it changes the object as that list.
-/

namespace Periphery

/-! ## Objects -/

/-- The classes of objects that `buffer` has overloads for. -/
inductive Container where
  | podArray
  | stdArray
  | vector
  | string
  | constString
  | stringView
deriving DecidableEq, Repr

/-- An object of `count` elements, one behind the other. -/
structure Storage where
  container : Container
  /-- The address of the first element. -/
  data : Nat
  count : Nat
  /-- The `sizeof` of an element. -/
  elementSize : Nat
  fits : data + count * elementSize < 2 ^ 64
deriving DecidableEq, Repr

/-- The range of the elements. -/
def Storage.extent (storage : Storage) : Buffer :=
  ⟨storage.data, storage.count * storage.elementSize, storage.fits⟩

/-- The start of the elements, for a class that is asked with `data()`. -/
def Storage.first (storage : Storage) : Nat := storage.data

/-- `data.size() ? &data[0] : 0`. -/
def Storage.firstIfAny (storage : Storage) : Nat :=
  if storage.count ≠ 0 then storage.data else 0

/-- The pointer that the overload for a class of objects takes. -/
def Storage.pointer (storage : Storage) : Nat :=
  match storage.container with
  | .podArray => storage.first
  | .stdArray => storage.first
  | .vector => storage.firstIfAny
  | .string => storage.firstIfAny
  | .constString => storage.first
  | .stringView => storage.firstIfAny

theorem Storage.firstIfAny_le (storage : Storage) :
    storage.firstIfAny ≤ storage.data := by
  unfold firstIfAny
  split <;> omega

theorem Storage.pointer_le (storage : Storage) :
    storage.pointer ≤ storage.data := by
  unfold pointer
  split
  · exact Nat.le_refl _
  · exact Nat.le_refl _
  · exact storage.firstIfAny_le
  · exact storage.firstIfAny_le
  · exact Nat.le_refl _
  · exact storage.firstIfAny_le

/-- The pointer is null only where there is nothing behind it. -/
theorem Storage.pointer_eq
    {storage : Storage} (nonempty : storage.extent.size ≠ 0) :
    storage.pointer = storage.data := by
  have elements : storage.count ≠ 0 := by
    intro none
    apply nonempty
    change storage.count * storage.elementSize = 0
    rw [none, Nat.zero_mul]
  have first : storage.firstIfAny = storage.data := if_pos elements
  unfold pointer
  split
  · rfl
  · rfl
  · exact first
  · exact first
  · rfl
  · exact first

/-! ## Buffers -/

namespace Buffer

/-- `mutable_buffer()` and `const_buffer()`. -/
def empty : Buffer := ⟨0, 0, by decide⟩

theorem plus_fits (b : Buffer) (n : Nat) :
    (b.data + if n < b.size then n else b.size) +
        (b.size - if n < b.size then n else b.size) <
      2 ^ 64 :=
  (b.advance n).fits

/-- `operator+`. -/
def plus (b : Buffer) (n : Nat) : Buffer where
  data := b.data + if n < b.size then n else b.size
  size := b.size - if n < b.size then n else b.size
  fits := plus_fits b n

/-- `buffer(b, max_size_in_bytes)`. -/
def upTo (b : Buffer) (max_size_in_bytes : Nat) : Buffer where
  data := b.data
  size := if b.size < max_size_in_bytes then b.size else max_size_in_bytes
  fits := by
    have fits := b.fits
    split <;> omega

/-- `buffer(data)` of an object. -/
def ofStorage (data : Storage) : Buffer where
  data := data.pointer
  size := data.count * data.elementSize
  fits := by
    have fits := data.fits
    have below := data.pointer_le
    omega

/-- `buffer(data, max_size_in_bytes)` of an object. -/
def ofStorageUpTo (data : Storage) (max_size_in_bytes : Nat) :
    Buffer where
  data := data.pointer
  size :=
    if data.count * data.elementSize < max_size_in_bytes then
      data.count * data.elementSize
    else max_size_in_bytes
  fits := by
    have fits := data.fits
    have below := data.pointer_le
    split <;> omega

/-- Both ways to move a buffer are the same. -/
theorem plus_eq_advance (buffer : Buffer) (n : Nat) :
    buffer.plus n = buffer.advance n :=
  rfl

theorem ofStorageUpTo_eq (data : Storage) (max_size_in_bytes : Nat) :
    ofStorageUpTo data max_size_in_bytes =
      (ofStorage data).upTo max_size_in_bytes :=
  rfl

theorem upTo_size (buffer : Buffer) (max_size_in_bytes : Nat) :
    (buffer.upTo max_size_in_bytes).size =
      min max_size_in_bytes buffer.size := by
  unfold upTo
  dsimp only
  split <;> omega

/-- The bytes of a buffer. -/
def bytes (memory : ByteMemory) (buffer : Buffer) : List (BitVec 8) :=
  memory.slice buffer.data buffer.size

@[simp]
theorem length_bytes (memory : ByteMemory) (buffer : Buffer) :
    (buffer.bytes memory).length = buffer.size :=
  ByteMemory.length_slice _ _ _

theorem bytes_of_empty
    {buffer : Buffer} (none : buffer.size = 0) (memory : ByteMemory) :
    buffer.bytes memory = [] := by
  rw [bytes, none, ByteMemory.slice_zero]

theorem bytes_upTo
    (memory : ByteMemory) (buffer : Buffer) (max_size_in_bytes : Nat) :
    (buffer.upTo max_size_in_bytes).bytes memory =
      (buffer.bytes memory).take max_size_in_bytes := by
  rw [@List.take_eq_take_min _ (buffer.bytes memory), length_bytes, bytes,
    upTo_size]
  exact
    (ByteMemory.take_slice _ _ _ _ (Nat.min_le_right _ _)).symm

theorem bytes_plus
    (memory : ByteMemory) (buffer : Buffer) (n : Nat) :
    (buffer.plus n).bytes memory = (buffer.bytes memory).drop n := by
  have within : min n buffer.size ≤ buffer.size := Nat.min_le_right _ _
  rw [@List.drop_eq_drop_min _ (buffer.bytes memory), length_bytes,
    plus_eq_advance, ← advance_min, bytes, advance_data within,
    advance_size within]
  exact (ByteMemory.drop_slice _ _ _ _ within).symm

/-- The bytes before a moved buffer, as a store leaves them. -/
theorem overwrite_plus
    (memory : ByteMemory) (buffer : Buffer) (n : Nat)
    (bytes : List (BitVec 8)) :
    memory.overwrite (buffer.plus n).data bytes =
      memory.overwrite buffer.data
        ((buffer.bytes memory).take n ++ bytes) := by
  have within : min n buffer.size ≤ buffer.size := Nat.min_le_right _ _
  have skipped :
      (buffer.bytes memory).take n =
        memory.slice buffer.data (min n buffer.size) := by
    rw [@List.take_eq_take_min _ (buffer.bytes memory), length_bytes]
    exact ByteMemory.take_slice _ _ _ _ within
  rw [skipped, ← ByteMemory.overwrite_append,
    ByteMemory.overwrite_slice, ByteMemory.length_slice,
    plus_eq_advance, ← advance_min, advance_data within]

theorem length_take_append
    {memory : ByteMemory} {buffer : Buffer} {n : Nat}
    {bytes : List (BitVec 8)}
    (fits : bytes.length ≤ (buffer.plus n).size) :
    ((buffer.bytes memory).take n ++ bytes).length ≤ buffer.size := by
  have within : min n buffer.size ≤ buffer.size := Nat.min_le_right _ _
  rw [plus_eq_advance, ← advance_min, advance_size within] at fits
  rw [List.length_append, List.length_take, length_bytes]
  omega

end Buffer

/-! ## Expressions -/

/-- What a client may write for a buffer. -/
inductive Expression where
  /-- `mutable_buffer()`. -/
  | empty
  /-- `buffer(data, size_in_bytes)`. -/
  | memory (range : Buffer)
  /-- `buffer(data)`. -/
  | storage (data : Storage)
  /-- `buffer(data, max_size_in_bytes)`. -/
  | storageUpTo (data : Storage) (max_size_in_bytes : Nat)
  /-- `buffer(b)`, and the conversion to a `const_buffer`. -/
  | copy (b : Expression)
  /-- `buffer(b, max_size_in_bytes)`. -/
  | upTo (b : Expression) (max_size_in_bytes : Nat)
  /-- `b + n` and `n + b`. -/
  | plus (b : Expression) (n : Nat)
  /-- `b += n`. -/
  | advance (b : Expression) (n : Nat)
deriving DecidableEq, Repr

namespace Expression

/-- The buffer that an expression stands for. -/
def buffer : Expression → Buffer
  | .empty => .empty
  | .memory range => range
  | .storage data => .ofStorage data
  | .storageUpTo data max_size_in_bytes =>
      .ofStorageUpTo data max_size_in_bytes
  | .copy b => b.buffer
  | .upTo b max_size_in_bytes => b.buffer.upTo max_size_in_bytes
  | .plus b n => b.buffer.plus n
  | .advance b n => b.buffer.advance n

/-- The range of the object that an expression is about. -/
def extent : Expression → Buffer
  | .empty => .empty
  | .memory range => range
  | .storage data => data.extent
  | .storageUpTo data _ => data.extent
  | .copy b => b.extent
  | .upTo b _ => b.extent
  | .plus b _ => b.extent
  | .advance b _ => b.extent

/-- The bytes that an expression selects from those of its object. -/
def select : Expression → List (BitVec 8) → List (BitVec 8)
  | .empty, object => object
  | .memory _, object => object
  | .storage _, object => object
  | .storageUpTo _ max_size_in_bytes, object =>
      object.take max_size_in_bytes
  | .copy b, object => b.select object
  | .upTo b max_size_in_bytes, object =>
      (b.select object).take max_size_in_bytes
  | .plus b n, object => (b.select object).drop n
  | .advance b n, object => (b.select object).drop n

/-- The object after its first selected bytes were replaced. -/
def replace : Expression → List (BitVec 8) → List (BitVec 8) →
    List (BitVec 8)
  | .empty, object, bytes => bytes ++ object.drop bytes.length
  | .memory _, object, bytes => bytes ++ object.drop bytes.length
  | .storage _, object, bytes => bytes ++ object.drop bytes.length
  | .storageUpTo _ _, object, bytes => bytes ++ object.drop bytes.length
  | .copy b, object, bytes => b.replace object bytes
  | .upTo b _, object, bytes => b.replace object bytes
  | .plus b n, object, bytes =>
      b.replace object ((b.select object).take n ++ bytes)
  | .advance b n, object, bytes =>
      b.replace object ((b.select object).take n ++ bytes)

/-- An object without bytes has the buffer without bytes. -/
theorem ofStorage_cases (data : Storage) :
    Buffer.ofStorage data = data.extent ∨
      (Buffer.ofStorage data).size = 0 ∧ data.extent.size = 0 := by
  by_cases none : data.extent.size = 0
  · exact .inr ⟨none, none⟩
  · left
    unfold Buffer.ofStorage
    rw [Buffer.mk.injEq]
    exact ⟨Storage.pointer_eq none, rfl⟩

theorem bytes_ofStorage (data : Storage) (memory : ByteMemory) :
    (Buffer.ofStorage data).bytes memory = data.extent.bytes memory := by
  rcases ofStorage_cases data with same | ⟨none, none'⟩
  · rw [same]
  · rw [Buffer.bytes_of_empty none, Buffer.bytes_of_empty none']

/-- Reading through a buffer selects from the bytes of its object. -/
theorem bytes_buffer (expression : Expression) (memory : ByteMemory) :
    expression.buffer.bytes memory =
      expression.select (expression.extent.bytes memory) := by
  induction expression with
  | empty => rfl
  | memory range => rfl
  | storage data => exact bytes_ofStorage data memory
  | storageUpTo data max_size_in_bytes =>
      rw [buffer, Buffer.ofStorageUpTo_eq, Buffer.bytes_upTo,
        bytes_ofStorage]
      rfl
  | copy b induction => exact induction
  | upTo b max_size_in_bytes induction =>
      rw [buffer, Buffer.bytes_upTo, induction]
      rfl
  | plus b n induction =>
      rw [buffer, Buffer.bytes_plus, induction]
      rfl
  | advance b n induction =>
      rw [buffer, ← Buffer.plus_eq_advance, Buffer.bytes_plus, induction]
      rfl

/-- What a store through a buffer does, as its expression says. -/
structure StoresAs (expression : Expression) (memory : ByteMemory)
    (bytes : List (BitVec 8)) : Prop where
  object :
    expression.extent.bytes
        (memory.overwrite expression.buffer.data bytes) =
      expression.replace (expression.extent.bytes memory) bytes
  elsewhere : ∀ address,
    address < expression.extent.data ∨
        expression.extent.data + expression.extent.size ≤ address →
      memory.overwrite expression.buffer.data bytes address =
        memory address

/-- A store at the start of an object. -/
theorem storesAs_extent
    {expression : Expression} {memory : ByteMemory}
    {bytes : List (BitVec 8)}
    (fits : bytes.length ≤ expression.extent.size)
    (start :
      expression.buffer.data = expression.extent.data ∨ bytes = [])
    (replaces : expression.replace (expression.extent.bytes memory) bytes =
      bytes ++ (expression.extent.bytes memory).drop bytes.length) :
    StoresAs expression memory bytes := by
  rcases start with same | rfl
  · constructor
    · rw [same, replaces]
      exact ByteMemory.slice_overwrite_of_le memory _ fits
    · rintro address outside
      rw [same]
      apply ByteMemory.overwrite_apply_outside
      omega
  · constructor
    · rw [ByteMemory.overwrite_nil, replaces]
      rfl
    · intro address _
      rw [ByteMemory.overwrite_nil]

theorem ofStorage_starts
    {data : Storage} {bytes : List (BitVec 8)}
    (fits : bytes.length ≤ data.extent.size) :
    (Buffer.ofStorage data).data = data.extent.data ∨ bytes = [] := by
  rcases ofStorage_cases data with same | ⟨_, none⟩
  · exact .inl (congrArg Buffer.data same)
  · rw [none] at fits
    exact .inr (List.length_eq_zero_iff.mp (Nat.le_zero.mp fits))

/-- A store through a moved buffer is one through the buffer itself. -/
theorem StoresAs.plus
    {b : Expression} {memory : ByteMemory} {bytes : List (BitVec 8)}
    {n : Nat}
    (stores :
      b.StoresAs memory ((b.buffer.bytes memory).take n ++ bytes)) :
    (b.plus n).StoresAs memory bytes := by
  rcases stores with ⟨object, elsewhere⟩
  rw [← Buffer.overwrite_plus] at object elsewhere
  refine ⟨?_, elsewhere⟩
  rw [bytes_buffer] at object
  exact object

/-- Storing through a buffer replaces bytes of its object only. -/
theorem storesAs
    {expression : Expression} {memory : ByteMemory}
    {bytes : List (BitVec 8)}
    (fits : bytes.length ≤ expression.buffer.size) :
    expression.StoresAs memory bytes := by
  induction expression generalizing bytes with
  | empty => exact storesAs_extent fits (.inl rfl) rfl
  | memory range => exact storesAs_extent fits (.inl rfl) rfl
  | storage data =>
      exact storesAs_extent fits (ofStorage_starts fits) rfl
  | storageUpTo data max_size_in_bytes =>
      rw [buffer, Buffer.ofStorageUpTo_eq, Buffer.upTo_size] at fits
      have fits' := Nat.le_trans fits (Nat.min_le_right _ _)
      exact storesAs_extent fits' (ofStorage_starts fits') rfl
  | copy b induction =>
      have stores := induction fits
      exact ⟨stores.object, stores.elsewhere⟩
  | upTo b max_size_in_bytes induction =>
      rw [buffer, Buffer.upTo_size] at fits
      have stores := induction (Nat.le_trans fits (Nat.min_le_right _ _))
      exact ⟨stores.object, stores.elsewhere⟩
  | plus b n induction =>
      exact StoresAs.plus (induction (Buffer.length_take_append fits))
  | advance b n induction =>
      have stores : (b.plus n).StoresAs memory bytes :=
        .plus (induction (Buffer.length_take_append fits))
      exact ⟨stores.object, stores.elsewhere⟩

/--
However a buffer was made: its bytes are those that its expression selects
from the object, a store of at most its size replaces the first of them and
nothing else in the memory, and what was stored is read back.
-/
theorem buffer_selects_and_replaces
    (expression : Expression) (memory : ByteMemory) :
    expression.buffer.bytes memory =
        expression.select (expression.extent.bytes memory) ∧
      ∀ bytes : List (BitVec 8), bytes.length ≤ expression.buffer.size →
        expression.StoresAs memory bytes ∧
          expression.select
              (expression.replace (expression.extent.bytes memory)
                bytes) =
            bytes ++ (expression.buffer.bytes memory).drop
              bytes.length := by
  refine ⟨bytes_buffer expression memory, fun bytes fits => ?_⟩
  have stores : expression.StoresAs memory bytes := storesAs fits
  refine ⟨stores, ?_⟩
  rw [← stores.object, ← bytes_buffer]
  exact ByteMemory.slice_overwrite_of_le memory _ fits

/-! ## Pieces -/

/-- A buffer cut at the front, again and again. -/
def pieces (b : Expression) : List Nat → List Expression
  | [] => [b]
  | n :: rest => b.upTo n :: (b.plus n).pieces rest

theorem extent_of_mem_pieces
    {b piece : Expression} {sizes : List Nat}
    (member : piece ∈ b.pieces sizes) : piece.extent = b.extent := by
  induction sizes generalizing b with
  | nil =>
      obtain rfl := List.mem_singleton.mp member
      rfl
  | cons n rest induction =>
      rcases List.mem_cons.mp member with rfl | later
      · rfl
      · exact @induction (b.plus n) later

/-- The pieces of a buffer select what the buffer selects. -/
theorem flatMap_select_pieces
    (b : Expression) (sizes : List Nat) (object : List (BitVec 8)) :
    (b.pieces sizes).flatMap (fun piece => piece.select object) =
      b.select object := by
  induction sizes generalizing b with
  | nil => exact List.flatMap_singleton _ _
  | cons n rest induction =>
      rw [pieces, List.flatMap_cons, induction]
      exact List.take_append_drop n (b.select object)

end Expression

/-! ## A vector of two elements -/

/-- A vector of two bytes at the address 16. -/
def twoElements : Storage := ⟨.vector, 16, 2, 1, by decide⟩

/-- Its first byte, and the rest of it. -/
def frontElement : Expression := (Expression.storage twoElements).upTo 1
def backElement : Expression := (Expression.storage twoElements).plus 1

/-- A byte stored behind the first one replaces the other one. -/
theorem backElement_replaced :
    twoElements.extent.bytes
        (ByteMemory.overwrite (fun _ => 7) backElement.buffer.data [8]) =
      [7, 8] := by
  have fits : ([8] : List (BitVec 8)).length ≤ backElement.buffer.size :=
    by decide
  exact
    ((backElement.buffer_selects_and_replaces fun _ => 7).2 [8]
      fits).1.object

end Periphery
