import Periphery.Syscall

/-!
# Buffers

A buffer names a range of the caller's memory.  The two classes of the source
differ only in what may be done through their pointers.
-/

namespace Periphery

/-- A range of memory. -/
structure Buffer where
  data : Nat
  size : Nat
  /-- The range and the address after it lie in the address space. -/
  fits : data + size < 2 ^ 64
deriving DecidableEq, Repr

/-- `mutable_buffer`. -/
abbrev MutableBuffer := Buffer

/-- `const_buffer`. -/
abbrev ConstBuffer := Buffer

namespace Buffer

/-- `operator+=`: move the start, but not past the end. -/
def advance (buffer : Buffer) (n : Nat) : Buffer where
  data := buffer.data + if n < buffer.size then n else buffer.size
  size := buffer.size - if n < buffer.size then n else buffer.size
  fits := by
    have fits := buffer.fits
    split <;> omega

theorem advance_data
    {buffer : Buffer} {n : Nat} (within : n ≤ buffer.size) :
    (buffer.advance n).data = buffer.data + n := by
  unfold advance
  dsimp only
  split <;> omega

theorem advance_size
    {buffer : Buffer} {n : Nat} (within : n ≤ buffer.size) :
    (buffer.advance n).size = buffer.size - n := by
  unfold advance
  dsimp only
  split <;> omega

theorem advance_size_of_ge
    {buffer : Buffer} {n : Nat} (past : buffer.size ≤ n) :
    (buffer.advance n).size = 0 := by
  unfold advance
  dsimp only
  split <;> omega

@[simp]
theorem advance_zero (buffer : Buffer) : buffer.advance 0 = buffer := by
  rcases buffer with ⟨data, size, fits⟩
  rw [advance, Buffer.mk.injEq]
  dsimp only
  split <;> omega

theorem advance_min (buffer : Buffer) (n : Nat) :
    buffer.advance (min n buffer.size) = buffer.advance n := by
  unfold advance
  rw [Buffer.mk.injEq]
  constructor
  · split <;> split <;> omega
  · split <;> split <;> omega

/-- Two moves are one. -/
theorem advance_advance (buffer : Buffer) (first second : Nat) :
    (buffer.advance first).advance second =
      buffer.advance (first + second) := by
  unfold advance
  rw [Buffer.mk.injEq]
  dsimp only
  constructor
  · split <;> split <;> split <;> omega
  · split <;> split <;> split <;> omega

end Buffer

end Periphery
