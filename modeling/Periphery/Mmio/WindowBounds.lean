import Periphery.Mmio.Translation

/-!
# Which accesses stay inside the window

Every public access of `Mmio` adds the displacement of the base and then the
length of the access to the caller's offset, and compares the sum with the
length of the mapping.  Both additions wrap.  The main theorem determines for
which offsets and lengths a call that passes this test stays inside the
window from `base` to `base + size - 1`.
-/

namespace Periphery.Mmio

/-! ## The accesses of one call -/

/-- Every byte of an access stands for an address of the window. -/
def InWindow (host : Host) (mmio : Mmio) (base size : Word)
    (access : Access) : Prop :=
  ∀ index < access.count,
    ∃ address,
      standsFor host mmio
          (access.address + BitVec.ofNat 64 index) = some address ∧
        Window base size address

/-- Records every access; a load may find any bytes. -/
def recorder : Kernel memoryBus (List Access) :=
  fun log access _ log' => log' = log ++ [access]

/-- An access to the `len` bytes that a call at `offset` means. -/
def Access.Serves (mmio : Mmio) (offset len : Word)
    (access : Access) : Prop :=
  access.address = pointer mmio offset ∧ access.count = len.toNat

/--
A call whose test fails throws without an access.  Otherwise it returns, and
it has made some access and only accesses to the bytes it names.
-/
def Accesses {Value : Type}
    (mmio : Mmio) (offset len : Word) (log : List Access) :
    Outcome Exception Value → Mmio → List Access → Prop
  | .returned _, mmio', log' =>
      mmio' = mmio ∧ Passes mmio offset len ∧
        ∃ accesses, accesses ≠ [] ∧ log' = log ++ accesses ∧
          ∀ access ∈ accesses, access.Serves mmio offset len
  | .threw _, mmio', log' =>
      mmio' = mmio ∧ ¬ Passes mmio offset len ∧ log' = log

/-- One access that serves the call is all that a guarded body makes. -/
theorem Accesses.of_single
    {Value : Type} {mmio : Mmio} {offset len : Word}
    {log : List Access} {access : Access} {value : Value}
    (passes : Passes mmio offset len)
    (serves : access.Serves mmio offset len) :
    Accesses mmio offset len log
      (.returned value : Outcome Exception Value) mmio
      (log ++ [access]) := by
  refine ⟨rfl, passes, [access], by simp, rfl, ?_⟩
  intro other member
  rw [List.mem_singleton.mp member]
  exact serves

theorem readRegister_accesses
    (width : Nat) (small : width < 2 ^ 64) (offset : Word)
    (mmio : Mmio) (log : List Access) :
    (readRegister width offset).Ensures recorder
      (Accesses mmio offset (BitVec.ofNat 64 width) log) mmio log := by
  rw [readRegister, guarded_ensures_iff]
  refine ⟨fun fails => ⟨rfl, fails, rfl⟩, ?_⟩
  rintro passes bytes log' rfl
  apply Accesses.of_single passes
  exact ⟨rfl, (toNat_ofNat_width small).symm⟩

theorem writeRegister_accesses
    (width : Nat) (small : width < 2 ^ 64) (offset : Word)
    (value : BitVec (8 * width)) (mmio : Mmio) (log : List Access) :
    (writeRegister width offset value).Ensures recorder
      (Accesses mmio offset (BitVec.ofNat 64 width) log) mmio log := by
  rw [writeRegister, guarded_ensures_iff]
  refine ⟨fun fails => ⟨rfl, fails, rfl⟩, ?_⟩
  rintro passes _ log' rfl
  apply Accesses.of_single passes
  exact
    ⟨rfl,
      (LittleEndian.length_encode value).trans
        (toNat_ofNat_width small).symm⟩

/-- The second half of a read-modify-write accesses the same bytes. -/
theorem modifyRegister_accesses
    (width : Nat) (small : width < 2 ^ 64) (offset : Word)
    (change : BitVec (8 * width) → BitVec (8 * width))
    (mmio : Mmio) (log : List Access) :
    (modifyRegister width offset change).Ensures recorder
      (Accesses mmio offset (BitVec.ofNat 64 width) log) mmio log := by
  apply Routine.Ensures.bind
    (readRegister_accesses width small offset mmio log)
  · rintro value _ _ ⟨rfl, passes, loads, _, rfl, loadsServe⟩
    apply (writeRegister_accesses width small offset _ _ _).mono
    rintro (_ | error) _ _
    · rintro ⟨rfl, _, stores, nonempty, rfl, storesServe⟩
      refine
        ⟨rfl, passes, loads ++ stores, by simp [nonempty],
          by simp, ?_⟩
      intro access member
      rcases List.mem_append.mp member with loaded | stored
      · exact loadsServe access loaded
      · exact storesServe access stored
    · rintro ⟨_, fails, _⟩
      exact absurd passes fails
  · intro error mmio' log' reached
    exact reached

theorem readBlock_accesses
    (offset len : Word) (mmio : Mmio) (log : List Access) :
    (readBlock offset len).Ensures recorder
      (Accesses mmio offset len log) mmio log := by
  rw [readBlock, guarded_ensures_iff]
  refine ⟨fun fails => ⟨rfl, fails, rfl⟩, ?_⟩
  rintro passes bytes log' rfl
  exact Accesses.of_single passes ⟨rfl, rfl⟩

theorem writeBlock_accesses
    (offset : Word) (buf : ByteMemory) (len : Word)
    (mmio : Mmio) (log : List Access) :
    (writeBlock offset buf len).Ensures recorder
      (Accesses mmio offset len log) mmio log := by
  rw [writeBlock, guarded_ensures_iff]
  refine ⟨fun fails => ⟨rfl, fails, rfl⟩, ?_⟩
  rintro passes _ log' rfl
  exact Accesses.of_single passes ⟨rfl, by simp [Access.count]⟩

/-- Packing the value of a call into a reply makes no access. -/
theorem reply_accesses
    {Value : Type} {mmio : Mmio} {offset len : Word}
    {log : List Access} {accessor : Accessor Value}
    (accesses : accessor.Ensures recorder
      (Accesses mmio offset len log) mmio log)
    (pack : Value → Reply) :
    (accessor >>= fun value => pure (pack value)).Ensures recorder
      (Accesses mmio offset len log) mmio log := by
  apply accesses.bind
  · intro value mmio' log' reached
    exact reached
  · intro error mmio' log' reached
    exact reached

/-- Each of the fourteen public calls is one guarded access or two. -/
theorem perform_accesses
    (operation : Operation) (mmio : Mmio) (log : List Access) :
    operation.perform.Ensures recorder
      (Accesses mmio operation.offset operation.len log)
      mmio log := by
  cases operation with
  | read32 offset =>
      exact reply_accesses (readRegister_accesses 4 (by decide) _ _ _) _
  | read16 offset =>
      exact reply_accesses (readRegister_accesses 2 (by decide) _ _ _) _
  | read8 offset =>
      exact reply_accesses (readRegister_accesses 1 (by decide) _ _ _) _
  | readBlock offset len =>
      exact reply_accesses (readBlock_accesses _ _ _ _) _
  | write32 offset value =>
      exact reply_accesses (writeRegister_accesses 4 (by decide) _ _ _ _) _
  | write16 offset value =>
      exact reply_accesses (writeRegister_accesses 2 (by decide) _ _ _ _) _
  | write8 offset value =>
      exact reply_accesses (writeRegister_accesses 1 (by decide) _ _ _ _) _
  | writeBlock offset buf len =>
      exact reply_accesses (writeBlock_accesses _ _ _ _ _) _
  | clear32 offset mask =>
      exact reply_accesses (modifyRegister_accesses 4 (by decide) _ _ _ _) _
  | clear16 offset mask =>
      exact reply_accesses (modifyRegister_accesses 2 (by decide) _ _ _ _) _
  | clear8 offset mask =>
      exact reply_accesses (modifyRegister_accesses 1 (by decide) _ _ _ _) _
  | set32 offset mask =>
      exact reply_accesses (modifyRegister_accesses 4 (by decide) _ _ _ _) _
  | set16 offset mask =>
      exact reply_accesses (modifyRegister_accesses 2 (by decide) _ _ _ _) _
  | set8 offset mask =>
      exact reply_accesses (modifyRegister_accesses 1 (by decide) _ _ _ _) _

/-! ## Arithmetic of the bounds test -/

/--
The sum of the offset, the displacement and the length does not reach
`2 ^ 64`; or what is left of it after wrapping still exceeds the length of
the mapping, so that the test fails; or there is nothing to access.
-/
def AvoidsWrap (base size page offset len : Word) : Prop :=
  let moved := offset.toNat + base.toNat % page.toNat + len.toNat
  len.toNat = 0 ∨ moved < 2 ^ 64 ∨
    (size.toNat + base.toNat % page.toNat) % 2 ^ 64 < moved % 2 ^ 64

/-- A test that passes after wrapping lets some byte escape the window. -/
theorem Maps.escapes_of_wrapped
    {base size page : Word} {mmio : Mmio} {mapping : Mapping}
    (maps : Maps base size page mmio mapping)
    {offset len : Word} (nonempty : 0 < len.toNat)
    (wrapped :
      2 ^ 64 ≤
        offset.toNat + base.toNat % page.toNat + len.toNat) :
    ∃ index < len.toNat, ∀ address,
      physical? mmio.m_ptr mapping
          (pointer mmio offset + BitVec.ofNat 64 index) =
        some address →
      ¬ Window base size address := by
  have inside : base.toNat % page.toNat ≤ base.toNat :=
    Nat.mod_le _ _
  simp only [maps.physical?_pointer]
  generalize base.toNat % page.toNat = shift at *
  by_cases early : 2 ^ 64 ≤ offset.toNat + shift
  · -- The offset itself wraps into the slack before the base.
    refine ⟨0, nonempty, ?_⟩
    intro address found window
    have below : address < base.toNat := by
      split_ifs at found with mapped
      cases found
      omega
    exact absurd window.1 (by omega)
  · -- Only the end wraps: the access runs past the end of the mapping.
    refine ⟨2 ^ 64 - 1 - (offset.toNat + shift), by omega, ?_⟩
    intro address found
    rw [if_neg (by omega)] at found
    contradiction

/-! ## The window theorem -/

/-- Every access that a returning call has made stays inside the window. -/
def StaysInWindow (host : Host) (mmio : Mmio) (base size : Word)
    (operation : Operation) : Prop :=
  ∀ reply mmio' accesses,
    operation.perform.Executes recorder
        mmio [] (.returned reply) mmio' accesses →
      ∀ access ∈ accesses, InWindow host mmio base size access

theorem recorder_total (log : List Access) (access : Access) :
    ∃ answer log', recorder log access answer log' := by
  cases access with
  | load address count => exact ⟨[], _, rfl⟩
  | store address bytes => exact ⟨(), _, rfl⟩

/-- A call whose test passes has an execution that returns. -/
theorem exists_returning_execution
    {mmio : Mmio} {operation : Operation}
    (passes : Passes mmio operation.offset operation.len) :
    ∃ reply mmio' accesses,
      operation.perform.Executes recorder
        mmio [] (.returned reply) mmio' accesses := by
  rcases
      Routine.exists_executes recorder recorder_total
        operation.perform mmio [] with
    ⟨outcome, mmio', accesses, executed⟩
  have reached :=
    (perform_accesses operation mmio []).of_executes executed
  cases outcome with
  | returned reply => exact ⟨reply, mmio', accesses, executed⟩
  | threw error => exact absurd passes reached.2.1

/--
For every window that the constructor maps and every public call, the call
stays inside the window exactly when its bounds arithmetic does not wrap, or
wraps to a value that the test still rejects, or names no byte.
-/
theorem staysInWindow_iff_avoidsWrap
    {caller : Nat} {base size : Word} {raw mmio : Mmio}
    {host host' : Host}
    (constructed :
      (construct base size).Executes (hostKernel caller)
        raw host (.returned ()) mmio host')
    (operation : Operation) :
    StaysInWindow host' mmio base size operation ↔
      AvoidsWrap base size host.pageSize
        operation.offset operation.len := by
  rcases
      (construct_ensures caller base size raw host).of_executes
        constructed with
    ⟨mapping, maps, _, _, rfl⟩
  constructor
  · intro stays
    by_contra wraps
    simp only [AvoidsWrap, not_or, Nat.not_lt] at wraps
    rcases wraps with ⟨nonempty, wrapped, accepted⟩
    have passes : Passes mmio operation.offset operation.len :=
      (maps.passes_iff _ _).mpr accepted
    rcases exists_returning_execution passes with
      ⟨reply, mmio', accesses, executed⟩
    rcases (perform_accesses operation mmio []).of_executes executed with
      ⟨_, _, made, some_access, rfl, serves⟩
    rcases List.exists_mem_of_ne_nil _ some_access with ⟨access, member⟩
    rcases serves access member with ⟨atPointer, countEq⟩
    rcases maps.escapes_of_wrapped (Nat.pos_of_ne_zero nonempty) wrapped with
      ⟨index, within, escapes⟩
    rcases stays _ _ _ executed access member index (countEq ▸ within) with
      ⟨address, found, window⟩
    rw [standsFor_mapAt, atPointer] at found
    exact escapes address found window
  · intro avoids reply mmio' accesses executed access member index
      within
    rcases (perform_accesses operation mmio []).of_executes executed with
      ⟨_, passes, made, _, rfl, serves⟩
    rcases serves access member with ⟨atPointer, countEq⟩
    rw [countEq] at within
    have unwrapped :
        operation.offset.toNat + base.toNat % host.pageSize.toNat +
          operation.len.toNat < 2 ^ 64 := by
      have accepted := (maps.passes_iff _ _).mp passes
      rcases avoids with empty | small | rejected
      · omega
      · exact small
      · exact absurd accepted (Nat.not_le.mpr rejected)
    refine ⟨_, ?_, maps.window_of_unwrapped passes unwrapped within⟩
    rw [standsFor_mapAt, atPointer]
    exact maps.physical?_of_unwrapped passes unwrapped within

/-! ## The window of one byte -/

/-- In the window of one byte, `read8` at offset 0 stays inside. -/
theorem read8_byteWindow_stays :
    StaysInWindow (idleHost.mapAt 4096 ⟨0, 2, 0⟩) byteWindow 1 1
      (.read8 0) :=
  (staysInWindow_iff_avoidsWrap construct_byteWindow (.read8 0)).mpr
    (.inr (.inl (by decide)))

/--
In that window, `read8` at the largest offset passes its test, returns, and
has read the byte at address 0, below the base.
-/
theorem read8_byteWindow_escapes :
    (construct 1 1).Executes (hostKernel 0)
        ⟨0, 0, 0, 0, 0⟩ idleHost (.returned ()) byteWindow
        (idleHost.mapAt 4096 ⟨0, 2, 0⟩) ∧
      (Operation.read8 (-1)).perform.Executes recorder
        byteWindow [] (.returned (.register8 7)) byteWindow
        [.load 4096 1] ∧
      ¬ InWindow (idleHost.mapAt 4096 ⟨0, 2, 0⟩) byteWindow 1 1
        (.load 4096 1) := by
  refine ⟨construct_byteWindow, ?_, ?_⟩
  · apply Routine.Executes.call ([7] : List Byte) rfl
    exact ⟨rfl, rfl, rfl⟩
  · intro inside
    rcases inside 0 (by decide) with ⟨address, found, window⟩
    cases found
    exact absurd window.1 (by decide)

end Periphery.Mmio
