import Periphery.Mmio.Construction

/-!
# From offsets to physical addresses

The mapping behind an `Mmio` object starts at the page that holds the base,
so an offset is moved by the displacement of the base in its page before it
becomes an index into the mapping.  The arithmetic here follows one byte of
an access from the caller's offset to its physical address.  All sums are
written in natural numbers, with the wrapping at `2 ^ 64` made explicit.
-/

namespace Periphery.Mmio

/-! ## Bytes of the mapping -/

/--
The physical address behind the virtual address `virtual`, for a mapping that
starts at `start`.  Addresses past the mapping stand for no physical address.
-/
def physical? (start : Word) (mapping : Mapping) (virtual : Word) :
    Option Nat :=
  let index := (virtual - start).toNat
  if index < mapping.length.toNat then
    some (mapping.offset.toNat + index)
  else
    none

/-- The physical address behind a virtual one in the mapping of `mmio`. -/
def standsFor (host : Host) (mmio : Mmio) (virtual : Word) :
    Option Nat :=
  (host.mappings mmio.m_ptr).bind fun mapping =>
    physical? mmio.m_ptr mapping virtual

/-- The physical address `address` lies in the window. -/
def Window (base size : Word) (address : Nat) : Prop :=
  base.toNat ≤ address ∧ address < base.toNat + size.toNat

theorem standsFor_mapAt
    (host : Host) (mmio : Mmio) (mapping : Mapping)
    (virtual : Word) :
    standsFor (host.mapAt mmio.m_ptr mapping) mmio virtual =
      physical? mmio.m_ptr mapping virtual := by
  simp [standsFor, Host.mapAt]

/-! ## Arithmetic of the bounds test -/

/-- The width of a register as a word. -/
theorem toNat_ofNat_width
    {width : Nat} (small : width < 2 ^ 64) :
    (BitVec.ofNat 64 width).toNat = width :=
  (BitVec.toNat_ofNat width 64).trans (Nat.mod_eq_of_lt small)

theorem Maps.displacement_toNat
    {base size page : Word} {mmio : Mmio} {mapping : Mapping}
    (maps : Maps base size page mmio mapping) :
    (displacement mmio).toNat = base.toNat % page.toNat := by
  have inside : base.toNat % page.toNat ≤ base.toNat :=
    Nat.mod_le _ _
  rw [displacement, maps.m_base, maps.m_aligned_base]
  simp only [BitVec.toNat_sub, BitVec.toNat_umod]
  omega

theorem Maps.m_aligned_base_toNat
    {base size page : Word} {mmio : Mmio} {mapping : Mapping}
    (maps : Maps base size page mmio mapping) :
    mmio.m_aligned_base.toNat =
      base.toNat - base.toNat % page.toNat := by
  have inside : base.toNat % page.toNat ≤ base.toNat :=
    Nat.mod_le _ _
  rw [maps.m_aligned_base]
  simp only [BitVec.toNat_sub, BitVec.toNat_umod]
  omega

theorem Maps.m_aligned_size_toNat
    {base size page : Word} {mmio : Mmio} {mapping : Mapping}
    (maps : Maps base size page mmio mapping) :
    mmio.m_aligned_size.toNat =
      (size.toNat + base.toNat % page.toNat) % 2 ^ 64 := by
  have moved :
      base - mmio.m_aligned_base = displacement mmio := by
    rw [displacement, maps.m_base]
  rw [maps.m_aligned_size, moved, BitVec.toNat_add,
    maps.displacement_toNat]

theorem Maps.passes_iff
    {base size page : Word} {mmio : Mmio} {mapping : Mapping}
    (maps : Maps base size page mmio mapping) (offset len : Word) :
    Passes mmio offset len ↔
      (offset.toNat + base.toNat % page.toNat + len.toNat) % 2 ^ 64 ≤
        (size.toNat + base.toNat % page.toNat) % 2 ^ 64 := by
  rw [Passes, gt_iff_lt, BitVec.not_lt, BitVec.le_def,
    maps.m_aligned_size_toNat]
  simp only [BitVec.toNat_add, maps.displacement_toNat]
  omega

/--
The byte `index` of an access at `offset`, as an index into the mapping and
as a physical address.
-/
theorem Maps.physical?_pointer
    {base size page : Word} {mmio : Mmio} {mapping : Mapping}
    (maps : Maps base size page mmio mapping)
    (offset : Word) (index : Nat) :
    physical? mmio.m_ptr mapping
        (pointer mmio offset + BitVec.ofNat 64 index) =
      let place :=
        (offset.toNat + base.toNat % page.toNat + index) % 2 ^ 64
      if place <
          (size.toNat + base.toNat % page.toNat) % 2 ^ 64 then
        some (base.toNat - base.toNat % page.toNat + place)
      else
        none := by
  have place :
      (pointer mmio offset + BitVec.ofNat 64 index -
          mmio.m_ptr).toNat =
        (offset.toNat + base.toNat % page.toNat + index) %
          2 ^ 64 := by
    have small := (displacement mmio).isLt
    rw [maps.displacement_toNat] at small
    simp only [pointer, BitVec.toNat_sub, BitVec.toNat_add,
      BitVec.toNat_ofNat, maps.displacement_toNat]
    omega
  simp only [physical?, place, maps.length, maps.offset,
    maps.m_aligned_size_toNat, maps.m_aligned_base_toNat]

/-- Without wrapping, the byte is the one the caller's offset names. -/
theorem Maps.physical?_of_unwrapped
    {base size page : Word} {mmio : Mmio} {mapping : Mapping}
    (maps : Maps base size page mmio mapping)
    {offset len : Word} (passes : Passes mmio offset len)
    (unwrapped :
      offset.toNat + base.toNat % page.toNat + len.toNat < 2 ^ 64)
    {index : Nat} (within : index < len.toNat) :
    physical? mmio.m_ptr mapping
        (pointer mmio offset + BitVec.ofNat 64 index) =
      some (base.toNat + offset.toNat + index) := by
  have inside : base.toNat % page.toNat ≤ base.toNat :=
    Nat.mod_le _ _
  rw [maps.passes_iff] at passes
  rw [maps.physical?_pointer]
  generalize base.toNat % page.toNat = shift at *
  rw [if_pos (by omega)]
  congr 1
  omega

/-- A test that passes without wrapping keeps every byte in the window. -/
theorem Maps.window_of_unwrapped
    {base size page : Word} {mmio : Mmio} {mapping : Mapping}
    (maps : Maps base size page mmio mapping)
    {offset len : Word} (passes : Passes mmio offset len)
    (unwrapped :
      offset.toNat + base.toNat % page.toNat + len.toNat < 2 ^ 64)
    {index : Nat} (within : index < len.toNat) :
    Window base size (base.toNat + offset.toNat + index) := by
  rw [maps.passes_iff] at passes
  refine ⟨by omega, ?_⟩
  generalize base.toNat % page.toNat = shift at *
  omega

end Periphery.Mmio
