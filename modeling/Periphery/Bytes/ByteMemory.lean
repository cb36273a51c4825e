import Mathlib.Data.List.Basic
import Mathlib.Tactic.Common

/-!
# Byte-addressed memory

A memory is a total map from addresses to bytes.  `slice` reads a range and
`overwrite` replaces one.  The lemmas say how the two meet: on the same
range, on disjoint ranges, and on a range split in two.
-/

/-- Bytes by address. -/
abbrev ByteMemory := Nat → BitVec 8

namespace ByteMemory

/-- The `count` bytes from `start` on. -/
def slice (memory : ByteMemory) (start count : Nat) :
    List (BitVec 8) :=
  (List.range count).map fun index => memory (start + index)

/-- Replace the bytes from `start` on by `bytes`. -/
def overwrite (memory : ByteMemory) (start : Nat)
    (bytes : List (BitVec 8)) : ByteMemory :=
  fun address =>
    if start ≤ address then
      (bytes[address - start]?).getD (memory address)
    else
      memory address

/-! ## Slices -/

@[simp]
theorem length_slice (memory : ByteMemory) (start count : Nat) :
    (memory.slice start count).length = count := by
  simp [slice]

@[simp]
theorem slice_zero (memory : ByteMemory) (start : Nat) :
    memory.slice start 0 = [] :=
  rfl

@[simp]
theorem getElem_slice
    (memory : ByteMemory) (start count index : Nat)
    (within : index < (memory.slice start count).length) :
    (memory.slice start count)[index] = memory (start + index) := by
  simp [slice]

theorem head?_slice_succ (memory : ByteMemory) (start count : Nat) :
    (memory.slice start (count + 1)).head? = some (memory start) := by
  simp [slice, List.range_succ_eq_map]

/-- The byte at the end of a proper prefix of a slice. -/
theorem slice_of_prefix_concat
    {memory : ByteMemory} {start count : Nat}
    {bytes : List (BitVec 8)} {byte : BitVec 8}
    (before : bytes ++ [byte] <+: memory.slice start count) :
    bytes.length < count ∧
      memory.slice (start + bytes.length) 1 = [byte] := by
  have within : bytes.length < (bytes ++ [byte]).length := by simp
  have there := before.getElem within
  have most := before.length_le
  rw [length_slice] at most
  constructor
  · exact Nat.lt_of_lt_of_le within most
  · simpa [slice] using there.symm

/-- Two slices agree as soon as the memories agree on the range. -/
theorem slice_congr
    {left right : ByteMemory} {start count : Nat}
    (agree : ∀ index < count,
      left (start + index) = right (start + index)) :
    left.slice start count = right.slice start count := by
  apply List.map_congr_left
  intro index member
  exact agree index (List.mem_range.mp member)

/-- A slice is the concatenation of its two parts. -/
theorem slice_add
    (memory : ByteMemory) (start first second : Nat) :
    memory.slice start (first + second) =
      memory.slice start first ++
        memory.slice (start + first) second := by
  simp [slice, List.range_add, Nat.add_assoc]

theorem take_slice
    (memory : ByteMemory) (start count taken : Nat)
    (within : taken ≤ count) :
    (memory.slice start count).take taken =
      memory.slice start taken := by
  rcases Nat.exists_eq_add_of_le within with ⟨rest, rfl⟩
  rw [slice_add, List.take_left' (length_slice ..)]

theorem drop_slice
    (memory : ByteMemory) (start count dropped : Nat)
    (within : dropped ≤ count) :
    (memory.slice start count).drop dropped =
      memory.slice (start + dropped) (count - dropped) := by
  rcases Nat.exists_eq_add_of_le within with ⟨rest, rfl⟩
  rw [slice_add, List.drop_left' (length_slice ..), Nat.add_sub_cancel_left]

/-! ## Overwriting -/

theorem overwrite_apply_inside
    (memory : ByteMemory) (start index : Nat)
    (bytes : List (BitVec 8)) (within : index < bytes.length) :
    memory.overwrite start bytes (start + index) =
      bytes[index] := by
  simp [overwrite, within]

theorem overwrite_apply_outside
    (memory : ByteMemory) (start address : Nat)
    (bytes : List (BitVec 8))
    (outside :
      address < start ∨ start + bytes.length ≤ address) :
    memory.overwrite start bytes address = memory address := by
  rw [overwrite]
  split_ifs with above
  · have past : bytes.length ≤ address - start := by omega
    rw [List.getElem?_eq_none past, Option.getD_none]
  · rfl

@[simp]
theorem overwrite_nil (memory : ByteMemory) (start : Nat) :
    memory.overwrite start [] = memory := by
  funext address
  apply overwrite_apply_outside
  simp only [List.length_nil, Nat.add_zero]
  exact Nat.lt_or_ge address start

/-- What was written is read back. -/
@[simp]
theorem slice_overwrite
    (memory : ByteMemory) (start : Nat)
    (bytes : List (BitVec 8)) :
    (memory.overwrite start bytes).slice start bytes.length =
      bytes := by
  apply List.ext_getElem
  · simp
  · intro index _ within
    rw [getElem_slice, overwrite_apply_inside _ _ _ _ within]

/-- A range that was not written is unchanged. -/
theorem slice_overwrite_of_disjoint
    (memory : ByteMemory) (start other count : Nat)
    (bytes : List (BitVec 8))
    (disjoint :
      other + count ≤ start ∨ start + bytes.length ≤ other) :
    (memory.overwrite start bytes).slice other count =
      memory.slice other count := by
  apply slice_congr
  intro index within
  apply overwrite_apply_outside
  omega

/-- A range whose first bytes were written. -/
theorem slice_overwrite_of_le
    (memory : ByteMemory) (start : Nat) {count : Nat}
    {bytes : List (BitVec 8)} (within : bytes.length ≤ count) :
    (memory.overwrite start bytes).slice start count =
      bytes ++ (memory.slice start count).drop bytes.length := by
  rw [drop_slice _ _ _ _ within]
  rcases Nat.exists_eq_add_of_le within with ⟨rest, rfl⟩
  rw [slice_add, slice_overwrite, Nat.add_sub_cancel_left,
    slice_overwrite_of_disjoint _ _ _ _ _ (.inr (Nat.le_refl _))]

/-- Two writes, one behind the other, are one. -/
theorem overwrite_append
    (memory : ByteMemory) (start : Nat)
    (first second : List (BitVec 8)) :
    (memory.overwrite start first).overwrite (start + first.length)
        second =
      memory.overwrite start (first ++ second) := by
  funext address
  unfold overwrite
  by_cases behind : start + first.length ≤ address
  · have past : first.length ≤ address - start := by omega
    rw [if_pos behind, if_pos (by omega), if_pos (by omega),
      List.getElem?_append_right past, List.getElem?_eq_none past,
      Nat.sub_add_eq]
    rfl
  · rw [if_neg behind]
    by_cases above : start ≤ address
    · rw [if_pos above, if_pos above,
        List.getElem?_append_left (by omega)]
    · rw [if_neg above, if_neg above]

/-- Of two writes to the same bytes, the second one stays. -/
theorem overwrite_overwrite
    (memory : ByteMemory) (start : Nat)
    {first second : List (BitVec 8)}
    (length : first.length = second.length) :
    (memory.overwrite start first).overwrite start second =
      memory.overwrite start second := by
  funext address
  by_cases stored : start ≤ address ∧ address < start + second.length
  · rcases Nat.exists_eq_add_of_le stored.1 with ⟨index, rfl⟩
    have within : index < second.length := by omega
    rw [overwrite_apply_inside _ _ _ _ within,
      overwrite_apply_inside _ _ _ _ within]
  · rw [overwrite_apply_outside _ _ _ _ (by omega),
      overwrite_apply_outside _ _ _ _ (by omega),
      overwrite_apply_outside _ _ _ _ (by omega)]

/-- Writing back what is there changes nothing. -/
theorem overwrite_slice
    (memory : ByteMemory) (start count : Nat) :
    memory.overwrite start (memory.slice start count) = memory := by
  funext address
  by_cases stored : start ≤ address ∧ address < start + count
  · rcases Nat.exists_eq_add_of_le stored.1 with ⟨index, rfl⟩
    have within : index < (memory.slice start count).length := by
      rw [length_slice]
      omega
    rw [overwrite_apply_inside _ _ _ _ within, getElem_slice]
  · apply overwrite_apply_outside
    rw [length_slice]
    omega

/-! ## Parts of a memory -/

section Parts

variable
    {part : Nat → Prop} [DecidablePred part]
    {initial memory : ByteMemory} {start : Nat}
    {bytes : List (BitVec 8)}

/-- The bytes of `memory` that belong to a part, with those of `initial`. -/
def inPart (part : Nat → Prop) [DecidablePred part]
    (initial memory : ByteMemory) : ByteMemory :=
  fun address => if part address then memory address else initial address

theorem inPart_self : inPart part initial initial = initial := by
  funext address
  exact ite_self _

theorem slice_inPart {count : Nat}
    (inside : ∀ index < count, part (start + index)) :
    (inPart part initial memory).slice start count =
      memory.slice start count := by
  apply slice_congr
  intro index within
  exact if_pos (inside index within)

/-- A store inside the part is seen in it. -/
theorem inPart_overwrite
    (inside : ∀ index < bytes.length, part (start + index)) :
    inPart part initial (memory.overwrite start bytes) =
      (inPart part initial memory).overwrite start bytes := by
  funext address
  by_cases stored : start ≤ address ∧ address < start + bytes.length
  · rcases Nat.exists_eq_add_of_le stored.1 with ⟨index, rfl⟩
    have within : index < bytes.length := by omega
    rw [overwrite_apply_inside _ _ _ _ within, inPart,
      if_pos (inside index within),
      overwrite_apply_inside _ _ _ _ within]
  · have outside :
        address < start ∨ start + bytes.length ≤ address := by
      omega
    simp only [inPart, overwrite_apply_outside _ _ _ _ outside]

/-- A store outside the part is not seen in it. -/
theorem inPart_overwrite_of_outside
    (outside : ∀ index < bytes.length, ¬ part (start + index)) :
    inPart part initial (memory.overwrite start bytes) =
      inPart part initial memory := by
  funext address
  by_cases stored : start ≤ address ∧ address < start + bytes.length
  · rcases Nat.exists_eq_add_of_le stored.1 with ⟨index, rfl⟩
    have apart := outside index (by omega)
    simp only [inPart, if_neg apart]
  · simp only [inPart,
      overwrite_apply_outside memory start address bytes (by omega)]

end Parts

end ByteMemory
