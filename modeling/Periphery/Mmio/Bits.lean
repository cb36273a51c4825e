import Periphery.Mmio.PhysicalRefinement

/-!
# Register bits that are set and cleared

Each set or clear is a read and a write of one width.  Its mask covers bits
of the window, and a run of such calls leaves each bit as the last call that
covers it left it, whatever the widths and however the ranges overlap.

The bounds test has to let the calls through for that.  It does so for every
call inside the window exactly if the length of the mapping does not wrap.
-/

namespace Periphery.Mmio

/-! ## Calls -/

/-- A call that sets or clears the bits of a mask. -/
inductive BitCall where
  | set32 (offset : Word) (mask : BitVec 32)
  | set16 (offset : Word) (mask : BitVec 16)
  | set8 (offset : Word) (mask : BitVec 8)
  | clear32 (offset : Word) (mask : BitVec 32)
  | clear16 (offset : Word) (mask : BitVec 16)
  | clear8 (offset : Word) (mask : BitVec 8)
deriving DecidableEq, Repr

namespace BitCall

/-- The public access of a call. -/
def operation : BitCall → Operation
  | set32 offset mask => .set32 offset mask
  | set16 offset mask => .set16 offset mask
  | set8 offset mask => .set8 offset mask
  | clear32 offset mask => .clear32 offset mask
  | clear16 offset mask => .clear16 offset mask
  | clear8 offset mask => .clear8 offset mask

/-- What the call makes of the bits it covers. -/
def sets : BitCall → Bool
  | set32 .. => true
  | set16 .. => true
  | set8 .. => true
  | clear32 .. => false
  | clear16 .. => false
  | clear8 .. => false

/-- A bit of the mask; there are none above its width. -/
def maskBit : BitCall → Nat → Bool
  | set32 _ mask, bit => mask.getLsbD bit
  | set16 _ mask, bit => mask.getLsbD bit
  | set8 _ mask, bit => mask.getLsbD bit
  | clear32 _ mask, bit => mask.getLsbD bit
  | clear16 _ mask, bit => mask.getLsbD bit
  | clear8 _ mask, bit => mask.getLsbD bit

/-- The mask covers a bit of the byte at a position in the window. -/
def Covers (call : BitCall) (position bit : Nat) : Prop :=
  call.operation.offset.toNat ≤ position ∧
    call.maskBit
      (8 * (position - call.operation.offset.toNat) + bit) = true

instance (call : BitCall) (position bit : Nat) :
    Decidable (call.Covers position bit) :=
  inferInstanceAs (Decidable (_ ∧ _))

end BitCall

/-! ## One call -/

namespace Reference

section Bits

variable
    {width start index bit : Nat} {memory : ByteMemory}

theorem setRegister_getLsbD
    (value : BitVec (8 * width)) (within : index < width)
    (inByte : bit < 8) :
    (setRegister width memory start value (start + index)).getLsbD bit =
      value.getLsbD (8 * index + bit) := by
  have stored : index < (LittleEndian.encode value).length := by
    rw [LittleEndian.length_encode]
    exact within
  rw [setRegister, ByteMemory.overwrite_apply_inside _ _ _ _ stored,
    LittleEndian.getLsbD_encode value stored inByte]

theorem register_getLsbD
    (within : index < width) (inByte : bit < 8) :
    (register width memory start).getLsbD (8 * index + bit) =
      (memory (start + index)).getLsbD bit := by
  have loaded : index < (memory.slice start width).length := by
    rw [ByteMemory.length_slice]
    exact within
  rw [register,
    LittleEndian.getLsbD_decode (ByteMemory.length_slice ..) loaded
      inByte,
    ByteMemory.getElem_slice]

/-- A register with the bits of a mask replaced by `forced`. -/
theorem masked_getLsbD
    (base offset position : Nat) {value mask : BitVec (8 * width)}
    {forced : Bool}
    (decides : ∀ place < 8 * width,
      value.getLsbD place =
        if mask.getLsbD place = true then forced
        else (register width memory (base + offset)).getLsbD place)
    (inByte : bit < 8) :
    (setRegister width memory (base + offset) value
        (base + position)).getLsbD bit =
      if offset ≤ position ∧
          mask.getLsbD (8 * (position - offset) + bit) = true then
        forced
      else
        (memory (base + position)).getLsbD bit := by
  by_cases inside : offset ≤ position ∧ position < offset + width
  · rcases Nat.exists_eq_add_of_le inside.1 with ⟨index, rfl⟩
    have within : index < width := by omega
    rw [← Nat.add_assoc base, setRegister_getLsbD _ within inByte,
      decides _ (by omega), register_getLsbD within inByte,
      Nat.add_sub_cancel_left]
    simp only [inside.1, true_and]
  · rw [setRegister_apply_outside _ (by omega), if_neg]
    rintro ⟨above, covered⟩
    have inMask := BitVec.lt_of_getLsbD covered
    omega

/-- A register that is set: the bits of the mask are one. -/
theorem set_getLsbD
    (base offset position : Nat) (mask : BitVec (8 * width))
    (inByte : bit < 8) :
    (setRegister width memory (base + offset)
        (register width memory (base + offset) ||| mask)
        (base + position)).getLsbD bit =
      if offset ≤ position ∧
          mask.getLsbD (8 * (position - offset) + bit) = true then
        true
      else
        (memory (base + position)).getLsbD bit := by
  apply masked_getLsbD base offset position _ inByte
  intro place _
  rw [BitVec.getLsbD_or]
  cases mask.getLsbD place <;> simp

/-- A register that is cleared: the bits of the mask are zero. -/
theorem clear_getLsbD
    (base offset position : Nat) (mask : BitVec (8 * width))
    (inByte : bit < 8) :
    (setRegister width memory (base + offset)
        (register width memory (base + offset) &&& ~~~mask)
        (base + position)).getLsbD bit =
      if offset ≤ position ∧
          mask.getLsbD (8 * (position - offset) + bit) = true then
        false
      else
        (memory (base + position)).getLsbD bit := by
  apply masked_getLsbD base offset position _ inByte
  intro place inMask
  rw [BitVec.getLsbD_and, BitVec.getLsbD_not, decide_eq_true inMask]
  cases mask.getLsbD place <;> simp

end Bits

/-- One call changes the bits that its mask covers, and no others. -/
theorem step_getLsbD
    (base : Word) (memory : ByteMemory) (call : BitCall)
    (position : Nat) {bit : Nat} (inByte : bit < 8) :
    ((step base memory call.operation).2
        (base.toNat + position)).getLsbD bit =
      if call.Covers position bit then call.sets
      else (memory (base.toNat + position)).getLsbD bit := by
  cases call with
  | set32 offset mask =>
      exact @set_getLsbD 4 bit memory _ _ position mask inByte
  | set16 offset mask =>
      exact @set_getLsbD 2 bit memory _ _ position mask inByte
  | set8 offset mask =>
      exact @set_getLsbD 1 bit memory _ _ position mask inByte
  | clear32 offset mask =>
      exact @clear_getLsbD 4 bit memory _ _ position mask inByte
  | clear16 offset mask =>
      exact @clear_getLsbD 2 bit memory _ _ position mask inByte
  | clear8 offset mask =>
      exact @clear_getLsbD 1 bit memory _ _ position mask inByte

end Reference

/-! ## Runs of calls -/

/--
A bit of the byte at `position` is `before` at first and `after` at last: it
is as the last call that covers it left it, or unchanged if none covers it.
-/
structure LastCallDecides (calls : List BitCall) (position bit : Nat)
    (before after : Bool) : Prop where
  covered : ∀ earlier call later,
    calls = earlier ++ call :: later → call.Covers position bit →
      (∀ other ∈ later, ¬ other.Covers position bit) →
        after = call.sets
  uncovered :
    (∀ call ∈ calls, ¬ call.Covers position bit) → after = before

theorem run_lastCallDecides
    (base : Word) (calls : List BitCall) (memory : ByteMemory)
    (position : Nat) {bit : Nat} (inByte : bit < 8) :
    LastCallDecides calls position bit
      ((memory (base.toNat + position)).getLsbD bit)
      (((Reference.run base memory (calls.map BitCall.operation)).2
        (base.toNat + position)).getLsbD bit) := by
  induction calls generalizing memory with
  | nil =>
      refine ⟨fun earlier call later split => ?_, fun _ => rfl⟩
      exact absurd split.symm (by simp)
  | cons first rest induction =>
      have stepped :=
        Reference.step_getLsbD base memory first position inByte
      have later :=
        induction (Reference.step base memory first.operation).2
      constructor
      · rintro (_ | ⟨_, earlier⟩) call others split covers uncovered
        · cases split
          rw [if_pos covers] at stepped
          exact (later.uncovered uncovered).trans stepped
        · cases split
          exact later.covered earlier call others rfl covers uncovered
      · intro uncovered
        rw [if_neg (uncovered first List.mem_cons_self)] at stepped
        refine (later.uncovered fun call member => ?_).trans stepped
        exact uncovered call (List.mem_cons_of_mem _ member)

/-! ## The window -/

/-- The calls all lie inside a window of `size` bytes. -/
def InsideWindow (size : Word) (calls : List BitCall) : Prop :=
  ∀ call ∈ calls,
    call.operation.offset.toNat + call.operation.len.toNat ≤ size.toNat

/--
Over plain memory, every run of set and clear calls inside the window has
exactly one execution, which returns, and at its end each bit of the window
is as the last call that covers it left it.
-/
def KeepsBits (host : Host) (mmio : Mmio) (base size : Word) : Prop :=
  ∀ calls, InsideWindow size calls → ∀ memory, ∃ replies memory',
    (performAll (calls.map BitCall.operation)).Yields
        (mappedMemory host mmio) mmio memory replies mmio memory' ∧
      ∀ position < size.toNat, ∀ bit < 8,
        LastCallDecides calls position bit
          ((memory (base.toNat + position)).getLsbD bit)
          ((memory' (base.toNat + position)).getLsbD bit)

theorem Maps.keepsBits
    {host : Host} {base size page : Word} {mmio : Mmio}
    {mapping : Mapping}
    (maps : Maps base size page mmio mapping)
    (bounded : size.toNat + base.toNat % page.toNat < 2 ^ 64) :
    KeepsBits (host.mapAt mmio.m_ptr mapping) mmio base size := by
  intro calls inside memory
  refine
    ⟨_, _, performAll_yields _ ?_ memory, fun position _ bit inByte =>
      run_lastCallDecides base calls memory position inByte⟩
  intro operation member
  rcases List.mem_map.mp member with ⟨call, listed, rfl⟩
  exact maps.reaches bounded (inside call listed)

/-- A register whose first byte is not mapped is never read. -/
theorem readRegister_unmapped
    {host : Host} {mmio : Mmio} {width : Nat} {offset : Word}
    (some : 0 < width)
    (unmapped : standsFor host mmio (pointer mmio offset) = none)
    (memory : ByteMemory) :
    (readRegister width offset).Ensures (mappedMemory host mmio)
      (fun outcome _ _ => ∃ error, outcome = .threw error)
      mmio memory := by
  rw [readRegister, guarded_ensures_iff]
  refine ⟨fun _ => ⟨_, rfl⟩, fun _ => ?_⟩
  rintro bytes memory' ⟨first, translates, _⟩
  have mapped := translates 0 some
  rw [BitVec.add_zero, unmapped] at mapped
  cases mapped

/-- The routine does not return. -/
def Throws {Value : Type} (kernel : Kernel memoryBus ByteMemory)
    (accessor : Accessor Value) (mmio : Mmio) (memory : ByteMemory) :
    Prop :=
  accessor.Ensures kernel
    (fun outcome _ _ => ∃ error, outcome = .threw error) mmio memory

theorem Throws.bind
    {Value Result : Type} {kernel : Kernel memoryBus ByteMemory}
    {first : Accessor Value} {mmio : Mmio} {memory : ByteMemory}
    (throws : Throws kernel first mmio memory)
    (next : Value → Accessor Result) :
    Throws kernel (first >>= next) mmio memory := by
  apply Routine.Ensures.bind throws
  · rintro value mmio' memory' ⟨error, impossible⟩
    cases impossible
  · intro error mmio' memory' _
    exact ⟨error, rfl⟩

/-- With a length that wraps, the first byte of the window is not mapped. -/
theorem Maps.unmapped_of_wrapped
    {host : Host} {base size page : Word} {mmio : Mmio}
    {mapping : Mapping}
    (maps : Maps base size page mmio mapping)
    (wraps : 2 ^ 64 ≤ size.toNat + base.toNat % page.toNat) :
    standsFor (host.mapAt mmio.m_ptr mapping) mmio
        (pointer mmio 0) =
      none := by
  have moved := maps.physical?_pointer 0 0
  have inside := Nat.mod_le base.toNat page.toNat
  have small := base.isLt
  have sizeSmall := size.isLt
  rw [BitVec.add_zero] at moved
  rw [standsFor_mapAt, moved]
  generalize base.toNat % page.toNat = shift at *
  apply if_neg
  rw [show (0 : Word).toNat = 0 from rfl]
  omega

/-- With a length that wraps, a call at the start of the window throws. -/
theorem Maps.throws_of_wrapped
    {host : Host} {base size page : Word} {mmio : Mmio}
    {mapping : Mapping}
    (maps : Maps base size page mmio mapping)
    (wraps : 2 ^ 64 ≤ size.toNat + base.toNat % page.toNat)
    (memory : ByteMemory) :
    Throws (mappedMemory (host.mapAt mmio.m_ptr mapping) mmio)
      (performAll [.set8 0 1]) mmio memory := by
  have unread :
      Throws (mappedMemory (host.mapAt mmio.m_ptr mapping) mmio)
        (readRegister 1 0) mmio memory :=
    readRegister_unmapped Nat.one_pos (maps.unmapped_of_wrapped wraps)
      memory
  exact ((unread.bind _).bind _).bind _

/--
For every window that the constructor maps: every run of set and clear calls
inside it leaves each bit as the last call that covers it left it, exactly if
the size of the window and the displacement of its base together stay below
`2 ^ 64`.
-/
theorem keepsBits_iff_bounded
    {caller : Nat} {base size : Word} {raw mmio : Mmio}
    {host host' : Host}
    (constructed :
      (construct base size).Executes (hostKernel caller)
        raw host (.returned ()) mmio host') :
    KeepsBits host' mmio base size ↔
      size.toNat + base.toNat % host.pageSize.toNat < 2 ^ 64 := by
  rcases
      (construct_ensures caller base size raw host).of_executes
        constructed with
    ⟨mapping, maps, _, _, rfl⟩
  constructor
  · intro keeps
    by_contra wraps
    have shifted := Nat.mod_le base.toNat host.pageSize.toNat
    have small := base.isLt
    have first : InsideWindow size [.set8 0 1] := by
      intro call member
      obtain rfl := List.mem_singleton.mp member
      change 0 + 1 ≤ size.toNat
      omega
    rcases keeps _ first (fun _ => 0) with ⟨_, _, yields, _⟩
    have returned := (yields _ _ _).mpr ⟨rfl, rfl, rfl⟩
    rcases
        (maps.throws_of_wrapped (Nat.not_lt.mp wraps)
          (fun _ => 0)).of_executes returned with
      ⟨error, impossible⟩
    cases impossible
  · exact maps.keepsBits

/-! ## A narrow and a wide window -/

theorem byteWindow_keepsBits :
    KeepsBits (idleHost.mapAt 4096 ⟨0, 2, 0⟩) byteWindow 1 1 :=
  (keepsBits_iff_bounded construct_byteWindow).mpr (by decide)

/-- The object for all addresses from 2 on, with a mapping of one byte. -/
def wideWindow : Mmio where
  m_base := 2
  m_aligned_base := 0
  m_size := -1
  m_aligned_size := 1
  m_ptr := 4096

theorem construct_wideWindow :
    (construct 2 (-1)).Executes (hostKernel 0)
      ⟨0, 0, 0, 0, 0⟩ idleHost (.returned ()) wideWindow
      (idleHost.mapAt 4096 ⟨0, 1, 0⟩) := by
  apply Routine.Executes.call (4096 : Word) ⟨rfl, rfl⟩
  apply Routine.Executes.call (3 : Int)
    (.inr ⟨by decide, rfl, rfl, rfl⟩)
  apply Routine.Executes.call (4096 : Word)
    (.inr ⟨by decide, by decide, rfl, rfl⟩)
  apply Routine.Executes.call (0 : Int) rfl
  rw [Host.release_mapAt, Host.release_grant rfl]
  exact ⟨rfl, rfl, rfl⟩

/-- In that window, `set8` at offset 0 is rejected as out of bounds. -/
theorem wideWindow_rejects :
    (construct 2 (-1)).Executes (hostKernel 0)
        ⟨0, 0, 0, 0, 0⟩ idleHost (.returned ()) wideWindow
        (idleHost.mapAt 4096 ⟨0, 1, 0⟩) ∧
      InsideWindow (-1) [.set8 0 1] ∧
      (performAll [.set8 0 1]).Executes
        (mappedMemory (idleHost.mapAt 4096 ⟨0, 1, 0⟩) wideWindow)
        wideWindow (fun _ => 0)
        (.threw (.invalidArgument "offset out of bounds"))
        wideWindow (fun _ => 0) ∧
      ¬ KeepsBits (idleHost.mapAt 4096 ⟨0, 1, 0⟩) wideWindow 2 (-1) := by
  have inside : InsideWindow (-1) [.set8 0 1] := by
    intro call member
    obtain rfl := List.mem_singleton.mp member
    decide
  have rejected :
      (performAll [.set8 0 1]).Executes
        (mappedMemory (idleHost.mapAt 4096 ⟨0, 1, 0⟩) wideWindow)
        wideWindow (fun _ => 0)
        (.threw (.invalidArgument "offset out of bounds"))
        wideWindow (fun _ => 0) :=
    ⟨rfl, rfl, rfl⟩
  refine ⟨construct_wideWindow, inside, rejected, fun keeps => ?_⟩
  rcases keeps _ inside (fun _ => 0) with ⟨_, _, yields, _⟩
  cases ((yields _ _ _).mp rejected).1

end Periphery.Mmio
