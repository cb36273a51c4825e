import Periphery.Mmio.Translation

/-!
# The window refines an array of physical bytes

With plain memory behind the mapping, any run of in-window calls gives the
results and leaves the memory of a reference device that knows nothing of
pages, mappings or displacements: it stores bytes by physical address and
acts on the little-endian bytes from `base + offset` on.
-/

namespace Periphery.Mmio

/-! ## Memory behind the mapping -/

/-- The `count` bytes from a virtual address on stand for those at `first`. -/
def Translates (host : Host) (mmio : Mmio)
    (address : Word) (count first : Nat) : Prop :=
  ∀ index < count,
    standsFor host mmio (address + BitVec.ofNat 64 index) =
      some (first + index)

/--
Plain memory seen through the mapping of `mmio`: a load finds the bytes that
are there and a store replaces them.  An access outside the mapping has no
answer.
-/
def mappedMemory (host : Host) (mmio : Mmio) :
    Kernel memoryBus ByteMemory :=
  fun memory access answer memory' =>
    match access, answer with
    | .load address count, bytes =>
        ∃ first, Translates host mmio address count first ∧
          bytes = memory.slice first count ∧ memory' = memory
    | .store address bytes, _ =>
        ∃ first, Translates host mmio address bytes.length first ∧
          memory' = memory.overwrite first bytes

/-! ## The reference device -/

namespace Reference

/-- The register of `width` bytes at a physical address. -/
def register (width : Nat) (memory : ByteMemory) (address : Nat) :
    BitVec (8 * width) :=
  LittleEndian.decode width (memory.slice address width)

/-- The memory after a register was written. -/
def setRegister (width : Nat) (memory : ByteMemory) (address : Nat)
    (value : BitVec (8 * width)) : ByteMemory :=
  memory.overwrite address (LittleEndian.encode value)

/-- What one call answers, and the memory it leaves. -/
def step (base : Word) (memory : ByteMemory) :
    Operation → Reply × ByteMemory
  | .read32 offset =>
      (.register32 (register 4 memory (base.toNat + offset.toNat)),
        memory)
  | .read16 offset =>
      (.register16 (register 2 memory (base.toNat + offset.toNat)),
        memory)
  | .read8 offset =>
      (.register8 (register 1 memory (base.toNat + offset.toNat)),
        memory)
  | .readBlock offset len =>
      (.block (memory.slice (base.toNat + offset.toNat) len.toNat),
        memory)
  | .write32 offset value =>
      (.unit,
        setRegister 4 memory (base.toNat + offset.toNat) value)
  | .write16 offset value =>
      (.unit,
        setRegister 2 memory (base.toNat + offset.toNat) value)
  | .write8 offset value =>
      (.unit,
        setRegister 1 memory (base.toNat + offset.toNat) value)
  | .writeBlock offset buf len =>
      (.unit,
        memory.overwrite (base.toNat + offset.toNat)
          (buf.slice 0 len.toNat))
  | .clear32 offset mask =>
      let address := base.toNat + offset.toNat
      (.unit,
        setRegister 4 memory address
          (register 4 memory address &&& ~~~ mask))
  | .clear16 offset mask =>
      let address := base.toNat + offset.toNat
      (.unit,
        setRegister 2 memory address
          (register 2 memory address &&& ~~~ mask))
  | .clear8 offset mask =>
      let address := base.toNat + offset.toNat
      (.unit,
        setRegister 1 memory address
          (register 1 memory address &&& ~~~ mask))
  | .set32 offset mask =>
      let address := base.toNat + offset.toNat
      (.unit,
        setRegister 4 memory address
          (register 4 memory address ||| mask))
  | .set16 offset mask =>
      let address := base.toNat + offset.toNat
      (.unit,
        setRegister 2 memory address
          (register 2 memory address ||| mask))
  | .set8 offset mask =>
      let address := base.toNat + offset.toNat
      (.unit,
        setRegister 1 memory address
          (register 1 memory address ||| mask))

/-- The replies of a run of calls, and the memory at its end. -/
def run (base : Word) (memory : ByteMemory) :
    List Operation → List Reply × ByteMemory
  | [] => ([], memory)
  | operation :: rest =>
      let (reply, next) := step base memory operation
      let (replies, final) := run base next rest
      (reply :: replies, final)

end Reference

/-! ## One call -/

section Call

variable {host : Host} {mmio : Mmio} {memory : ByteMemory}

/-- The bytes behind a range do not depend on how their start is named. -/
theorem Translates.slice_eq
    {address : Word} {count first other : Nat}
    (translates : Translates host mmio address count first)
    (otherTranslates : Translates host mmio address count other) :
    memory.slice other count = memory.slice first count := by
  apply List.map_congr_left
  intro index member
  have within : index < count := List.mem_range.mp member
  have same :=
    (otherTranslates index within).symm.trans
      (translates index within)
  rw [Option.some.inj same]

/-- A load of bytes that are mapped finds exactly those bytes. -/
theorem load_yields
    {address : Word} {count first : Nat}
    (translates : Translates host mmio address count first) :
    (load address count).Yields (mappedMemory host mmio)
      mmio memory (memory.slice first count) mmio memory := by
  apply Routine.Yields.ask
  intro bytes memory'
  constructor
  · rintro ⟨other, otherTranslates, rfl, rfl⟩
    exact ⟨translates.slice_eq otherTranslates, rfl⟩
  · rintro ⟨rfl, rfl⟩
    exact ⟨first, translates, rfl, rfl⟩

/-- A store to bytes that are mapped replaces exactly those bytes. -/
theorem store_yields
    {address : Word} {first : Nat} {bytes : List Byte}
    (translates : Translates host mmio address bytes.length first) :
    (store address bytes).Yields (mappedMemory host mmio)
      mmio memory () mmio (memory.overwrite first bytes) := by
  apply Routine.Yields.ask
  rintro ⟨⟩ memory'
  constructor
  · rintro ⟨other, otherTranslates, rfl⟩
    refine ⟨rfl, ?_⟩
    cases bytes with
    | nil => rw [ByteMemory.overwrite_nil, ByteMemory.overwrite_nil]
    | cons byte rest =>
        have same :=
          (otherTranslates 0 (Nat.zero_lt_succ _)).symm.trans
            (translates 0 (Nat.zero_lt_succ _))
        have sameFirst : other = first := Option.some.inj same
        rw [sameFirst]
  · rintro ⟨-, rfl⟩
    exact ⟨first, translates, rfl⟩

/-- A guarded access whose test passes is the access itself. -/
theorem guarded_yields
    {Value : Type} {offset len : Word} {what : String}
    {access : Word → Accessor Value} {value : Value}
    {memory' : ByteMemory}
    (passes : Passes mmio offset len)
    (yields : (access (pointer mmio offset)).Yields
      (mappedMemory host mmio) mmio memory value mmio memory') :
    (guarded offset len what access).Yields (mappedMemory host mmio)
      mmio memory value mmio memory' := by
  apply Routine.Yields.bind Routine.Yields.self
  simp only [if_neg passes]
  exact yields

/--
The call at `offset` passes its test, and its bytes are the physical bytes
from `base + offset` on.
-/
structure Reaches (host : Host) (mmio : Mmio)
    (base offset len : Word) : Prop where
  passes : Passes mmio offset len
  translates :
    Translates host mmio (pointer mmio offset) len.toNat
      (base.toNat + offset.toNat)

variable {base offset : Word}

theorem readRegister_yields
    (width : Nat) (small : width < 2 ^ 64)
    (reaches : Reaches host mmio base offset (BitVec.ofNat 64 width)) :
    (readRegister width offset).Yields (mappedMemory host mmio)
      mmio memory
      (Reference.register width memory (base.toNat + offset.toNat))
      mmio memory := by
  have translates := reaches.translates
  rw [toNat_ofNat_width small] at translates
  exact
    guarded_yields reaches.passes
      ((load_yields translates).bind (Routine.Yields.pure _))

theorem writeRegister_yields
    (width : Nat) (small : width < 2 ^ 64)
    (value : BitVec (8 * width))
    (reaches : Reaches host mmio base offset (BitVec.ofNat 64 width)) :
    (writeRegister width offset value).Yields (mappedMemory host mmio)
      mmio memory () mmio
      (Reference.setRegister width memory
        (base.toNat + offset.toNat) value) := by
  have translates := reaches.translates
  rw [toNat_ofNat_width small] at translates
  apply guarded_yields reaches.passes
  apply store_yields
  rw [LittleEndian.length_encode]
  exact translates

theorem modifyRegister_yields
    (width : Nat) (small : width < 2 ^ 64)
    (change : BitVec (8 * width) → BitVec (8 * width))
    (reaches : Reaches host mmio base offset (BitVec.ofNat 64 width)) :
    (modifyRegister width offset change).Yields
      (mappedMemory host mmio) mmio memory () mmio
      (Reference.setRegister width memory (base.toNat + offset.toNat)
        (change
          (Reference.register width memory
            (base.toNat + offset.toNat)))) :=
  (readRegister_yields width small reaches).bind
    (writeRegister_yields width small _ reaches)

theorem readBlock_yields
    {len : Word} (reaches : Reaches host mmio base offset len) :
    (readBlock offset len).Yields (mappedMemory host mmio)
      mmio memory
      (memory.slice (base.toNat + offset.toNat) len.toNat)
      mmio memory :=
  guarded_yields reaches.passes (load_yields reaches.translates)

theorem writeBlock_yields
    {len : Word} (buf : ByteMemory)
    (reaches : Reaches host mmio base offset len) :
    (writeBlock offset buf len).Yields (mappedMemory host mmio)
      mmio memory () mmio
      (memory.overwrite (base.toNat + offset.toNat)
        (buf.slice 0 len.toNat)) := by
  apply guarded_yields reaches.passes
  apply store_yields
  rw [ByteMemory.length_slice]
  exact reaches.translates

/-- Every public call that reaches its bytes does what the device does. -/
theorem perform_yields
    (operation : Operation)
    (reaches :
      Reaches host mmio base operation.offset operation.len) :
    operation.perform.Yields (mappedMemory host mmio) mmio memory
      (Reference.step base memory operation).1 mmio
      (Reference.step base memory operation).2 := by
  have packed := @Routine.Yields.pure memoryBus Mmio Exception Reply
    ByteMemory (mappedMemory host mmio)
  cases operation with
  | read32 offset =>
      exact (readRegister_yields 4 (by decide) reaches).bind (packed _)
  | read16 offset =>
      exact (readRegister_yields 2 (by decide) reaches).bind (packed _)
  | read8 offset =>
      exact (readRegister_yields 1 (by decide) reaches).bind (packed _)
  | readBlock offset len =>
      exact (readBlock_yields reaches).bind (packed _)
  | write32 offset value =>
      exact
        (writeRegister_yields 4 (by decide) _ reaches).bind (packed _)
  | write16 offset value =>
      exact
        (writeRegister_yields 2 (by decide) _ reaches).bind (packed _)
  | write8 offset value =>
      exact
        (writeRegister_yields 1 (by decide) _ reaches).bind (packed _)
  | writeBlock offset buf len =>
      exact (writeBlock_yields _ reaches).bind (packed _)
  | clear32 offset mask =>
      exact
        (modifyRegister_yields 4 (by decide) _ reaches).bind (packed _)
  | clear16 offset mask =>
      exact
        (modifyRegister_yields 2 (by decide) _ reaches).bind (packed _)
  | clear8 offset mask =>
      exact
        (modifyRegister_yields 1 (by decide) _ reaches).bind (packed _)
  | set32 offset mask =>
      exact
        (modifyRegister_yields 4 (by decide) _ reaches).bind (packed _)
  | set16 offset mask =>
      exact
        (modifyRegister_yields 2 (by decide) _ reaches).bind (packed _)
  | set8 offset mask =>
      exact
        (modifyRegister_yields 1 (by decide) _ reaches).bind (packed _)

end Call

/-! ## Runs of calls -/

/-- A caller that issues the calls in order and collects the replies. -/
def performAll : List Operation → Accessor (List Reply)
  | [] => return []
  | operation :: rest => do
      let reply ← operation.perform
      let replies ← performAll rest
      return reply :: replies

/-- A run whose calls all reach their bytes does what the device does. -/
theorem performAll_yields
    {host : Host} {mmio : Mmio} {base : Word}
    (operations : List Operation)
    (reaches : ∀ operation ∈ operations,
      Reaches host mmio base operation.offset operation.len)
    (memory : ByteMemory) :
    (performAll operations).Yields (mappedMemory host mmio) mmio memory
      (Reference.run base memory operations).1 mmio
      (Reference.run base memory operations).2 := by
  induction operations generalizing memory with
  | nil => exact Routine.Yields.pure _
  | cons operation rest induction =>
      have first :=
        @perform_yields host mmio memory base operation
          (reaches operation List.mem_cons_self)
      have others := induction fun other member =>
        reaches other (List.mem_cons_of_mem _ member)
      exact first.bind ((others _).bind (Routine.Yields.pure _))

/-- The call writes, sets or clears the byte at a physical address. -/
def Operation.Overwrites (base : Word) (address : Nat) :
    Operation → Prop
  | .read32 _ => False
  | .read16 _ => False
  | .read8 _ => False
  | .readBlock _ _ => False
  | operation =>
      base.toNat + operation.offset.toNat ≤ address ∧
        address <
          base.toNat + operation.offset.toNat + operation.len.toNat

namespace Reference

theorem setRegister_apply_outside
    {width : Nat} {memory : ByteMemory} {start address : Nat}
    (value : BitVec (8 * width))
    (outside : ¬ (start ≤ address ∧ address < start + width)) :
    setRegister width memory start value address = memory address := by
  apply ByteMemory.overwrite_apply_outside
  rw [LittleEndian.length_encode]
  omega

theorem step_apply_of_not_overwrites
    {base : Word} {address : Nat} {operation : Operation}
    (memory : ByteMemory)
    (untouched : ¬ operation.Overwrites base address) :
    (step base memory operation).2 address = memory address := by
  cases operation with
  | read32 offset => rfl
  | read16 offset => rfl
  | read8 offset => rfl
  | readBlock offset len => rfl
  | write32 offset value =>
      exact setRegister_apply_outside _ untouched
  | write16 offset value =>
      exact setRegister_apply_outside _ untouched
  | write8 offset value =>
      exact setRegister_apply_outside _ untouched
  | writeBlock offset buf len =>
      apply ByteMemory.overwrite_apply_outside
      rw [ByteMemory.length_slice]
      simp only [Operation.Overwrites, Operation.offset,
        Operation.len] at untouched
      omega
  | clear32 offset mask =>
      exact setRegister_apply_outside _ untouched
  | clear16 offset mask =>
      exact setRegister_apply_outside _ untouched
  | clear8 offset mask =>
      exact setRegister_apply_outside _ untouched
  | set32 offset mask =>
      exact setRegister_apply_outside _ untouched
  | set16 offset mask =>
      exact setRegister_apply_outside _ untouched
  | set8 offset mask =>
      exact setRegister_apply_outside _ untouched

theorem run_apply_of_not_overwrites
    {base : Word} {address : Nat} (operations : List Operation)
    (untouched : ∀ operation ∈ operations,
      ¬ operation.Overwrites base address)
    (memory : ByteMemory) :
    (run base memory operations).2 address = memory address := by
  induction operations generalizing memory with
  | nil => rfl
  | cons operation rest induction =>
      have others := induction fun other member =>
        untouched other (List.mem_cons_of_mem _ member)
      exact
        (others _).trans
          (step_apply_of_not_overwrites memory
            (untouched operation List.mem_cons_self))

end Reference

/-! ## The refinement theorem -/

/-- In a mapping that does not wrap, every in-window call reaches its bytes. -/
theorem Maps.reaches
    {host : Host} {base size page : Word} {mmio : Mmio}
    {mapping : Mapping}
    (maps : Maps base size page mmio mapping)
    (bounded : size.toNat + base.toNat % page.toNat < 2 ^ 64)
    {offset len : Word}
    (inside : offset.toNat + len.toNat ≤ size.toNat) :
    Reaches (host.mapAt mmio.m_ptr mapping) mmio base offset len := by
  have passes : Passes mmio offset len := by
    rw [maps.passes_iff]
    generalize base.toNat % page.toNat = shift at *
    omega
  refine ⟨passes, ?_⟩
  intro index within
  rw [standsFor_mapAt]
  exact maps.physical?_of_unwrapped passes (by omega) within

/--
For every window that the constructor maps below `2 ^ 64` and every run of
in-window calls over plain memory: the run has exactly one execution, which
does not throw, gives the replies of the reference device and leaves its
memory; and the bytes that no call of the run overwrites are unchanged.
-/
theorem performAll_refines_reference
    {caller : Nat} {base size : Word} {raw mmio : Mmio}
    {host host' : Host}
    (constructed :
      (construct base size).Executes (hostKernel caller)
        raw host (.returned ()) mmio host')
    (bounded : base.toNat + size.toNat < 2 ^ 64)
    (operations : List Operation)
    (inside : ∀ operation ∈ operations,
      operation.offset.toNat + operation.len.toNat ≤ size.toNat)
    (memory : ByteMemory) :
    (performAll operations).Yields (mappedMemory host' mmio)
        mmio memory
        (Reference.run base memory operations).1 mmio
        (Reference.run base memory operations).2 ∧
      ∀ address,
        (∀ operation ∈ operations,
          ¬ operation.Overwrites base address) →
        (Reference.run base memory operations).2 address =
          memory address := by
  rcases
      (construct_ensures caller base size raw host).of_executes
        constructed with
    ⟨mapping, maps, _, _, rfl⟩
  constructor
  · have shifted := Nat.mod_le base.toNat host.pageSize.toNat
    apply performAll_yields
    intro operation member
    exact maps.reaches (by omega) (inside operation member)
  · intro address untouched
    exact Reference.run_apply_of_not_overwrites operations untouched _

/-- A byte written to the window of one byte is read back. -/
theorem performAll_byteWindow_refines :
    (performAll [.write8 0 5, .read8 0]).Yields
        (mappedMemory (idleHost.mapAt 4096 ⟨0, 2, 0⟩) byteWindow)
        byteWindow (fun _ => 0)
        (Reference.run 1 (fun _ => 0) [.write8 0 5, .read8 0]).1
        byteWindow
        (Reference.run 1 (fun _ => 0) [.write8 0 5, .read8 0]).2 ∧
      ∀ address,
        (∀ operation ∈ [Operation.write8 0 5, .read8 0],
          ¬ operation.Overwrites 1 address) →
        (Reference.run 1 (fun _ => 0)
            [.write8 0 5, .read8 0]).2 address = 0 :=
  performAll_refines_reference construct_byteWindow (by decide)
    [.write8 0 5, .read8 0]
    (by simp [Operation.offset, Operation.len])
    (fun _ => 0)

end Periphery.Mmio
