import Periphery.Mmio.PhysicalRefinement
import Periphery.Routine.Parallel

/-!
# Windows used by several threads

The class takes no locks.  Its objects may be used by any number of threads
at once, and several windows may show the same physical bytes.

As long as no thread writes a byte that another thread names, every
interleaving gives each thread the replies of a run of its own, and leaves
the bytes as these runs leave them.  Each load and each store is one access
here; without a common byte it does not matter how the hardware splits them.
-/

namespace Periphery.Mmio

/-! ## Windows that stand -/

/-- A window that a constructor mapped and that is still mapped. -/
structure MappedWindow (host : Host) where
  mmio : Mmio
  base : Word
  size : Word
  mapping : Mapping
  maps : Maps base size host.pageSize mmio mapping
  mapped : host.mappings mmio.m_ptr = some mapping
  bounded : base.toNat + size.toNat < 2 ^ 64

/-- A constructor that returns leaves such a window. -/
theorem exists_mappedWindow
    {caller : Nat} {base size : Word} {raw mmio : Mmio}
    {host host' : Host}
    (constructed :
      (construct base size).Executes (hostKernel caller)
        raw host (.returned ()) mmio host')
    (bounded : base.toNat + size.toNat < 2 ^ 64) :
    ∃ window : MappedWindow host',
      window.mmio = mmio ∧ window.base = base ∧ window.size = size := by
  rcases
      (construct_ensures caller base size raw host).of_executes
        constructed with
    ⟨mapping, maps, _, _, rfl⟩
  have mapped :
      (host.mapAt mmio.m_ptr mapping).mappings mmio.m_ptr =
        some mapping := by
    simp [Host.mapAt]
  exact
    ⟨⟨mmio, base, size, mapping, maps, mapped, bounded⟩,
      rfl, rfl, rfl⟩

/-- A window still stands after another one was constructed. -/
theorem MappedWindow.later
    {caller : Nat} {base size : Word} {raw mmio : Mmio}
    {host host' : Host} (window : MappedWindow host)
    (constructed :
      (construct base size).Executes (hostKernel caller)
        raw host (.returned ()) mmio host') :
    ∃ window' : MappedWindow host',
      window'.mmio = window.mmio ∧ window'.base = window.base ∧
        window'.size = window.size := by
  rcases
      (construct_ensures caller base size raw host).of_executes
        constructed with
    ⟨mapping, _, _, free, rfl⟩
  have mapped :
      (host.mapAt mmio.m_ptr mapping).mappings window.mmio.m_ptr =
        some window.mapping := by
    have different : window.mmio.m_ptr ≠ mmio.m_ptr := by
      intro same
      have live := window.mapped
      rw [same, free] at live
      cases live
    simpa [Host.mapAt, different] using window.mapped
  exact
    ⟨⟨window.mmio, window.base, window.size, window.mapping,
        window.maps, mapped, window.bounded⟩,
      rfl, rfl, rfl⟩

/-- In a window that stands, every in-window call reaches its bytes. -/
theorem MappedWindow.reaches
    {host : Host} (window : MappedWindow host) {offset len : Word}
    (inside : offset.toNat + len.toNat ≤ window.size.toNat) :
    Reaches host window.mmio window.base offset len := by
  have bounded := window.bounded
  have shifted :=
    Nat.mod_le window.base.toNat host.pageSize.toNat
  have passes : Passes window.mmio offset len := by
    rw [window.maps.passes_iff]
    generalize window.base.toNat % host.pageSize.toNat = shift at *
    omega
  refine ⟨passes, ?_⟩
  intro index within
  rw [standsFor, window.mapped]
  exact window.maps.physical?_of_unwrapped passes (by omega) within

/-! ## Bytes that a call names -/

/-- The call reads or writes the byte at a physical address. -/
def Operation.Names (base : Word) (address : Nat)
    (operation : Operation) : Prop :=
  base.toNat + operation.offset.toNat ≤ address ∧
    address < base.toNat + operation.offset.toNat + operation.len.toNat

instance (base : Word) (address : Nat) (operation : Operation) :
    Decidable (operation.Names base address) :=
  inferInstanceAs (Decidable (_ ∧ _))

theorem Operation.Overwrites.names
    {base : Word} {address : Nat} {operation : Operation}
    (overwrites : operation.Overwrites base address) :
    operation.Names base address := by
  cases operation <;> first | exact overwrites | exact overwrites.elim

/-- Some call of a list names the byte. -/
def NamedBy (base : Word) (operations : List Operation)
    (address : Nat) : Prop :=
  ∃ operation ∈ operations, operation.Names base address

instance (base : Word) (operations : List Operation) :
    DecidablePred (NamedBy base operations) :=
  fun address =>
    inferInstanceAs
      (Decidable (∃ operation ∈ operations,
        operation.Names base address))

/-- Some call of a list writes, sets or clears the byte. -/
def WrittenBy (base : Word) (operations : List Operation)
    (address : Nat) : Prop :=
  ∃ operation ∈ operations, operation.Overwrites base address

theorem WrittenBy.namedBy
    {base : Word} {operations : List Operation} {address : Nat}
    (written : WrittenBy base operations address) :
    NamedBy base operations address := by
  rcases written with ⟨operation, member, overwrites⟩
  exact ⟨operation, member, overwrites.names⟩

/-! ## Accesses of a thread -/

/-- The access reads bytes of one part, and writes bytes of another. -/
def Touches (host : Host) (mmio : Mmio) (read written : Nat → Prop) :
    Access → Prop
  | .load address count =>
      ∃ first, Translates host mmio address count first ∧
        ∀ index < count, read (first + index)
  | .store address bytes =>
      ∃ first, Translates host mmio address bytes.length first ∧
        ∀ index < bytes.length, written (first + index)

section Accesses

variable
    {host : Host} {mmio : Mmio} {base : Word}
    {read written : Nat → Prop}

/-- Stores to the same bytes do not depend on how their start is named. -/
theorem Translates.overwrite_eq
    {address : Word} {first other : Nat} {bytes : List Byte}
    (translates : Translates host mmio address bytes.length first)
    (otherTranslates :
      Translates host mmio address bytes.length other)
    (memory : ByteMemory) :
    memory.overwrite other bytes = memory.overwrite first bytes := by
  cases bytes with
  | nil => rw [ByteMemory.overwrite_nil, ByteMemory.overwrite_nil]
  | cons byte rest =>
      have same :=
        (otherTranslates 0 (Nat.zero_lt_succ _)).symm.trans
          (translates 0 (Nat.zero_lt_succ _))
      have sameFirst : other = first := Option.some.inj same
      rw [sameFirst]

/-- Plain memory answers every access to mapped bytes. -/
theorem Touches.answered
    {access : Access} (touches : Touches host mmio read written access)
    (memory : ByteMemory) :
    ∃ answer memory',
      mappedMemory host mmio memory access answer memory' := by
  cases access with
  | load address count =>
      rcases touches with ⟨first, translates, _⟩
      exact
        ⟨memory.slice first count, memory,
          first, translates, rfl, rfl⟩
  | store address bytes =>
      rcases touches with ⟨first, translates, _⟩
      exact ⟨(), memory.overwrite first bytes, first, translates, rfl⟩

/-- An access acts on the part it reads as on the whole memory. -/
theorem Touches.acts [DecidablePred read]
    {access : Access} {answer : memoryBus.Answer access}
    {memory memory' : ByteMemory}
    (touches : Touches host mmio read written access)
    (reads : ∀ address, written address → read address)
    (answered : mappedMemory host mmio memory access answer memory')
    (initial : ByteMemory) :
    mappedMemory host mmio (.inPart read initial memory) access answer
      (.inPart read initial memory') := by
  cases access with
  | load address count =>
      rcases touches with ⟨first, translates, inside⟩
      rcases answered with ⟨other, otherTranslates, rfl, rfl⟩
      refine ⟨first, translates, ?_, rfl⟩
      rw [ByteMemory.slice_inPart inside,
        translates.slice_eq otherTranslates]
  | store address bytes =>
      rcases touches with ⟨first, translates, inside⟩
      rcases answered with ⟨other, otherTranslates, rfl⟩
      refine ⟨first, translates, ?_⟩
      rw [translates.overwrite_eq otherTranslates,
        ByteMemory.inPart_overwrite fun index within =>
          reads _ (inside index within)]

/-- An access leaves every part that it does not write. -/
theorem Touches.leaves
    {part : Nat → Prop} [DecidablePred part]
    {access : Access} {answer : memoryBus.Answer access}
    {memory memory' : ByteMemory}
    (touches : Touches host mmio read written access)
    (apart : ∀ address, written address → ¬ part address)
    (answered : mappedMemory host mmio memory access answer memory')
    (initial : ByteMemory) :
    ByteMemory.inPart part initial memory' =
      ByteMemory.inPart part initial memory := by
  cases access with
  | load address count =>
      rcases answered with ⟨_, _, _, rfl⟩
      rfl
  | store address bytes =>
      rcases touches with ⟨first, translates, inside⟩
      rcases answered with ⟨other, otherTranslates, rfl⟩
      rw [translates.overwrite_eq otherTranslates]
      exact
        ByteMemory.inPart_overwrite_of_outside fun index within =>
          apart _ (inside index within)

/-- A byte that is not written stays as it is. -/
theorem Touches.apply_eq
    {access : Access} {answer : memoryBus.Answer access}
    {memory memory' : ByteMemory} {address : Nat}
    (touches : Touches host mmio read written access)
    (untouched : ¬ written address)
    (answered : mappedMemory host mmio memory access answer memory') :
    memory' address = memory address := by
  have apart : ∀ other, written other → ¬ other = address := by
    rintro other writes rfl
    exact untouched writes
  simpa [ByteMemory.inPart] using
    congrFun (touches.leaves apart answered memory) address

end Accesses

/-! ## Calls of a thread -/

section Calls

variable
    {host : Host} {mmio : Mmio} {base offset : Word}
    {read written : Nat → Prop}

/-- The thread asks for these accesses only, and keeps its object. -/
abbrev KeepsTo {Value : Type} (host : Host) (mmio : Mmio)
    (read written : Nat → Prop) (accessor : Accessor Value) : Prop :=
  accessor.Asks (Touches host mmio read written) (fun kept => kept = mmio)
    mmio

theorem guarded_keepsTo
    {Value : Type} {len : Word} {what : String}
    {access : Word → Accessor Value}
    (passes : Passes mmio offset len)
    (keeps : KeepsTo host mmio read written
      (access (pointer mmio offset))) :
    KeepsTo host mmio read written
      (guarded offset len what access) := by
  simp only [KeepsTo, guarded, Bind.bind, Routine.bind, Routine.self,
    Routine.Asks]
  rw [if_neg passes]
  exact keeps

theorem readRegister_keepsTo
    (width : Nat) (small : width < 2 ^ 64)
    (reaches : Reaches host mmio base offset (BitVec.ofNat 64 width))
    (inside : ∀ index < width,
      read (base.toNat + offset.toNat + index)) :
    KeepsTo host mmio read written (readRegister width offset) := by
  have translates := reaches.translates
  rw [toNat_ofNat_width small] at translates
  apply guarded_keepsTo reaches.passes
  exact ⟨⟨_, translates, inside⟩, fun _ => rfl⟩

theorem writeRegister_keepsTo
    (width : Nat) (small : width < 2 ^ 64)
    (value : BitVec (8 * width))
    (reaches : Reaches host mmio base offset (BitVec.ofNat 64 width))
    (inside : ∀ index < width,
      written (base.toNat + offset.toNat + index)) :
    KeepsTo host mmio read written
      (writeRegister width offset value) := by
  have translates := reaches.translates
  rw [toNat_ofNat_width small] at translates
  apply guarded_keepsTo reaches.passes
  have stores : Touches host mmio read written
      (.store (pointer mmio offset) (LittleEndian.encode value)) := by
    rw [← LittleEndian.length_encode value] at translates inside
    exact ⟨_, translates, inside⟩
  exact ⟨stores, fun _ => rfl⟩

theorem modifyRegister_keepsTo
    (width : Nat) (small : width < 2 ^ 64)
    (change : BitVec (8 * width) → BitVec (8 * width))
    (reaches : Reaches host mmio base offset (BitVec.ofNat 64 width))
    (reads : ∀ index < width, read (base.toNat + offset.toNat + index))
    (writes : ∀ index < width,
      written (base.toNat + offset.toNat + index)) :
    KeepsTo host mmio read written
      (modifyRegister width offset change) := by
  apply (readRegister_keepsTo width small reaches reads).bind
  rintro value _ rfl
  exact writeRegister_keepsTo width small _ reaches writes

theorem readBlock_keepsTo
    {len : Word} (reaches : Reaches host mmio base offset len)
    (inside : ∀ index < len.toNat,
      read (base.toNat + offset.toNat + index)) :
    KeepsTo host mmio read written (readBlock offset len) := by
  apply guarded_keepsTo reaches.passes
  exact ⟨⟨_, reaches.translates, inside⟩, fun _ => rfl⟩

theorem writeBlock_keepsTo
    {len : Word} (buf : ByteMemory)
    (reaches : Reaches host mmio base offset len)
    (inside : ∀ index < len.toNat,
      written (base.toNat + offset.toNat + index)) :
    KeepsTo host mmio read written (writeBlock offset buf len) := by
  apply guarded_keepsTo reaches.passes
  have translates := reaches.translates
  have stores : Touches host mmio read written
      (.store (pointer mmio offset) (buf.slice 0 len.toNat)) := by
    rw [← ByteMemory.length_slice buf 0 len.toNat] at translates inside
    exact ⟨_, translates, inside⟩
  exact ⟨stores, fun _ => rfl⟩

/-- A call that reaches its bytes keeps to the bytes it names. -/
theorem perform_keepsTo
    (operation : Operation)
    (reaches :
      Reaches host mmio base operation.offset operation.len)
    (reads : ∀ address, operation.Names base address → read address)
    (writes : ∀ address, operation.Overwrites base address →
      written address) :
    KeepsTo host mmio read written operation.perform := by
  have packed {Value : Type} {accessor : Accessor Value}
      {reply : Value → Reply}
      (keeps : KeepsTo host mmio read written accessor) :
      KeepsTo host mmio read written
        (accessor >>= fun value => pure (reply value)) :=
    keeps.bind fun _ _ kept => kept
  have ranged : ∀ index < operation.len.toNat,
      operation.Names base
        (base.toNat + operation.offset.toNat + index) :=
    fun index within => ⟨by omega, by omega⟩
  have named : ∀ index < operation.len.toNat,
      read (base.toNat + operation.offset.toNat + index) :=
    fun index within => reads _ (ranged index within)
  cases operation with
  | read32 offset =>
      exact packed (readRegister_keepsTo 4 (by decide) reaches named)
  | read16 offset =>
      exact packed (readRegister_keepsTo 2 (by decide) reaches named)
  | read8 offset =>
      exact packed (readRegister_keepsTo 1 (by decide) reaches named)
  | readBlock offset len =>
      exact packed (readBlock_keepsTo reaches named)
  | write32 offset value =>
      exact packed (writeRegister_keepsTo 4 (by decide) _ reaches
        fun index within => writes _ (ranged index within))
  | write16 offset value =>
      exact packed (writeRegister_keepsTo 2 (by decide) _ reaches
        fun index within => writes _ (ranged index within))
  | write8 offset value =>
      exact packed (writeRegister_keepsTo 1 (by decide) _ reaches
        fun index within => writes _ (ranged index within))
  | writeBlock offset buf len =>
      exact packed (writeBlock_keepsTo _ reaches
        fun index within => writes _ (ranged index within))
  | clear32 offset mask =>
      exact packed (modifyRegister_keepsTo 4 (by decide) _ reaches named
        fun index within => writes _ (ranged index within))
  | clear16 offset mask =>
      exact packed (modifyRegister_keepsTo 2 (by decide) _ reaches named
        fun index within => writes _ (ranged index within))
  | clear8 offset mask =>
      exact packed (modifyRegister_keepsTo 1 (by decide) _ reaches named
        fun index within => writes _ (ranged index within))
  | set32 offset mask =>
      exact packed (modifyRegister_keepsTo 4 (by decide) _ reaches named
        fun index within => writes _ (ranged index within))
  | set16 offset mask =>
      exact packed (modifyRegister_keepsTo 2 (by decide) _ reaches named
        fun index within => writes _ (ranged index within))
  | set8 offset mask =>
      exact packed (modifyRegister_keepsTo 1 (by decide) _ reaches named
        fun index within => writes _ (ranged index within))

/-- A run of calls keeps to the bytes that its calls name. -/
theorem performAll_keepsTo
    (operations : List Operation)
    (reaches : ∀ operation ∈ operations,
      Reaches host mmio base operation.offset operation.len)
    (reads : ∀ address, NamedBy base operations address → read address)
    (writes : ∀ address, WrittenBy base operations address →
      written address) :
    KeepsTo host mmio read written (performAll operations) := by
  induction operations with
  | nil => rfl
  | cons operation rest induction =>
      have first : KeepsTo host mmio read written operation.perform :=
        perform_keepsTo operation
          (reaches operation List.mem_cons_self)
          (fun address names =>
            reads address ⟨operation, List.mem_cons_self, names⟩)
          (fun address overwrites =>
            writes address ⟨operation, List.mem_cons_self, overwrites⟩)
      have others : KeepsTo host mmio read written (performAll rest) := by
        apply induction
        · exact fun other member =>
            reaches other (List.mem_cons_of_mem _ member)
        · rintro address ⟨other, member, names⟩
          exact reads address ⟨other, List.mem_cons_of_mem _ member, names⟩
        · rintro address ⟨other, member, overwrites⟩
          exact
            writes address
              ⟨other, List.mem_cons_of_mem _ member, overwrites⟩
      apply first.bind
      rintro reply _ rfl
      exact others.bind fun _ _ kept => kept

end Calls

/-! ## Interleavings -/

section Interleaving

variable
    {Thread : Type} {host : Host}
    (window : Thread → MappedWindow host)
    (operations : Thread → List Operation)

/-- The threads before their first calls. -/
def starting (memory : ByteMemory) :
    Routine.Pool Thread memoryBus Mmio Exception (List Reply)
      ByteMemory where
  rest thread := performAll (operations thread)
  fields thread := (window thread).mmio
  state := memory

/-- The memory as a thread reaches it. -/
abbrev plainMemory (thread : Thread) : Kernel memoryBus ByteMemory :=
  mappedMemory host (window thread).mmio

/-- Every call of every thread stays in the window of the thread. -/
def StayInside : Prop :=
  ∀ thread, ∀ operation ∈ operations thread,
    operation.offset.toNat + operation.len.toNat ≤
      (window thread).size.toNat

/-- No thread writes a byte that another one names. -/
def RaceFree : Prop :=
  ∀ thread other, other ≠ thread → ∀ address,
    WrittenBy (window thread).base (operations thread) address →
      ¬ NamedBy (window other).base (operations other) address

/--
What the threads have done is what each would have done alone, starting from
`memory`: whoever ended has the replies and the bytes of its own run, no
byte changed that nobody writes, and whoever did not end can go on.
-/
structure AsAlone (memory : ByteMemory)
    (pool : Routine.Pool Thread memoryBus Mmio Exception (List Reply)
      ByteMemory) : Prop where
  replies : ∀ thread outcome,
    (pool.rest thread).ended = some outcome →
      outcome =
        .returned
          (Reference.run (window thread).base memory
            (operations thread)).1
  bytes : ∀ thread outcome address,
    (pool.rest thread).ended = some outcome →
      NamedBy (window thread).base (operations thread) address →
        pool.state address =
          (Reference.run (window thread).base memory
            (operations thread)).2 address
  others : ∀ address,
    (∀ thread,
      ¬ WrittenBy (window thread).base (operations thread) address) →
      pool.state address = memory address
  goesOn : ∀ thread, (pool.rest thread).ended = none →
    ∃ moment,
      Routine.Steps (plainMemory window thread) (pool.moment thread)
        moment

variable {window operations}

theorem starting_keepsTo
    (inside : StayInside window operations)
    (memory : ByteMemory) (thread : Thread) :
    ((starting window operations memory).rest thread).Asks
      (Touches host (window thread).mmio
        (NamedBy (window thread).base (operations thread))
        (WrittenBy (window thread).base (operations thread)))
      (fun kept => kept = (window thread).mmio)
      ((starting window operations memory).fields thread) :=
  performAll_keepsTo (operations thread)
    (fun operation member =>
      (window thread).reaches (inside thread operation member))
    (fun _ named => named) (fun _ written => written)

/-- Without races, each thread acts on the bytes it names and no others. -/
theorem RaceFree.apart
    (raceFree : RaceFree window operations) (memory : ByteMemory) :
    Routine.Pool.Apart (plainMemory window)
      (fun thread =>
        Touches host (window thread).mmio
          (NamedBy (window thread).base (operations thread))
          (WrittenBy (window thread).base (operations thread)))
      (fun thread =>
        ByteMemory.inPart
          (NamedBy (window thread).base (operations thread)) memory)
    where
  acts _ _ _ _ _ touches answered :=
    touches.acts (fun _ written => written.namedBy) answered memory
  leaves thread other _ _ _ _ different touches answered :=
    touches.leaves (raceFree thread other different) answered memory

/--
Any number of threads, each with a window and a run of in-window calls, such
that no thread writes a byte that another one names: at every moment of every
interleaving, each thread that ended has the replies and left the bytes of
its run alone, and no thread is stuck.
-/
theorem threads_run_as_alone [DecidableEq Thread]
    (inside : StayInside window operations)
    (raceFree : RaceFree window operations)
    {memory : ByteMemory}
    {pool : Routine.Pool Thread memoryBus Mmio Exception (List Reply)
      ByteMemory}
    (run :
      Routine.Pool.Runs (plainMemory window)
        (starting window operations memory) pool) :
    AsAlone window operations memory pool := by
  have asks := starting_keepsTo inside memory
  have alone : ∀ thread outcome,
      (pool.rest thread).ended = some outcome →
        outcome =
            .returned
              (Reference.run (window thread).base memory
                (operations thread)).1 ∧
          ByteMemory.inPart
              (NamedBy (window thread).base (operations thread))
              memory pool.state =
            (Reference.run (window thread).base memory
              (operations thread)).2 := by
    intro thread outcome finished
    have executed := (raceFree.apart memory).executes asks run finished
    simp only [starting, ByteMemory.inPart_self] at executed
    have yields :=
      performAll_yields (operations thread)
        (fun operation member =>
          (window thread).reaches (inside thread operation member))
        memory
    rcases (yields _ _ _).mp executed with ⟨returned, _, left⟩
    exact ⟨returned, left⟩
  refine ⟨fun thread outcome finished => (alone _ _ finished).1,
    ?_, ?_, ?_⟩
  · intro thread outcome address finished named
    rw [← (alone _ _ finished).2, ByteMemory.inPart, if_pos named]
  · intro address untouched
    refine
      Routine.Pool.holds_run
        (fun state : ByteMemory => state address = memory address)
        ?_ asks run rfl
    intro thread state request answer state' touches held answered
    exact (touches.apply_eq (untouched thread) answered).trans held
  · intro thread unfinished
    refine
      Routine.Asks.exists_steps (Routine.Pool.asks_run asks run thread)
        ?_ unfinished
    intro state request touches
    exact touches.answered state

end Interleaving

/-! ## Two windows in one page -/

/-- The object for the one byte at address 2, mapped at address 8192. -/
def neighbourWindow : Mmio where
  m_base := 2
  m_aligned_base := 0
  m_size := 1
  m_aligned_size := 3
  m_ptr := 8192

/-- A host on which the bytes at addresses 1 and 2 are mapped. -/
def neighbourHost : Host :=
  (idleHost.mapAt 4096 ⟨0, 2, 0⟩).mapAt 8192 ⟨0, 3, 0⟩

def neighbours : Bool → MappedWindow neighbourHost
  | true =>
      { mmio := byteWindow
        base := 1
        size := 1
        mapping := ⟨0, 2, 0⟩
        maps := ⟨rfl, rfl, rfl, rfl, rfl, rfl, by decide⟩
        mapped := rfl
        bounded := by decide }
  | false =>
      { mmio := neighbourWindow
        base := 2
        size := 1
        mapping := ⟨0, 3, 0⟩
        maps := ⟨rfl, rfl, rfl, rfl, rfl, rfl, by decide⟩
        mapped := rfl
        bounded := by decide }

/-- One thread writes its byte and the other one sets a bit of its own. -/
def neighbourCalls : Bool → List Operation
  | true => [.write8 0 5]
  | false => [.set8 0 1]

/-- The neighbours after both have run to their ends. -/
def neighboursEnded :
    Routine.Pool Bool memoryBus Mmio Exception (List Reply) ByteMemory :=
  ((starting neighbours neighbourCalls fun _ => 0).moveTo true
    ⟨.done [.unit], byteWindow,
      ByteMemory.overwrite (fun _ => 0) 1 [5]⟩).moveTo false
    ⟨.done [.unit], neighbourWindow,
      (ByteMemory.overwrite (fun _ => 0) 1 [5]).overwrite 2 [1]⟩

theorem neighbours_translate :
    Translates neighbourHost byteWindow (pointer byteWindow 0) 1 1 ∧
      Translates neighbourHost neighbourWindow
        (pointer neighbourWindow 0) 1 2 := by
  constructor <;>
    · intro index within
      obtain rfl : index = 0 := by omega
      rfl

theorem neighbours_run :
    Routine.Pool.Runs (plainMemory neighbours)
      (starting neighbours neighbourCalls fun _ => 0)
      neighboursEnded := by
  have first :
      Relation.ReflTransGen (Routine.Steps (plainMemory neighbours true))
        ((starting neighbours neighbourCalls fun _ => 0).moment true)
        ⟨.done [.unit], byteWindow,
          ByteMemory.overwrite (fun _ => 0) 1 [5]⟩ :=
    .tail (.single .observe) (.call () ⟨1, neighbours_translate.1, rfl⟩)
  refine (Routine.Pool.runs_moveTo _ true first).trans ?_
  apply Routine.Pool.runs_moveTo
  exact
    .tail
      (.tail
        (.tail (.single .observe)
          (.call [0] ⟨2, neighbours_translate.2, rfl, rfl⟩))
        .observe)
      (.call () ⟨2, neighbours_translate.2, rfl⟩)

/-- Two writers of neighbouring bytes do not disturb each other. -/
theorem neighbours_run_as_alone :
    AsAlone neighbours neighbourCalls (fun _ => 0) neighboursEnded := by
  refine threads_run_as_alone ?_ ?_ neighbours_run
  · rintro (_ | _) operation member
    · obtain rfl := List.mem_singleton.mp member
      decide
    · obtain rfl := List.mem_singleton.mp member
      decide
  · rintro (_ | _) (_ | _) different address
      ⟨first, firstMember, overwrites⟩ ⟨second, secondMember, names⟩
    · exact different rfl
    · obtain rfl := List.mem_singleton.mp firstMember
      obtain rfl := List.mem_singleton.mp secondMember
      have above : 2 ≤ address := overwrites.1
      have below : address < 2 := names.2
      omega
    · obtain rfl := List.mem_singleton.mp firstMember
      obtain rfl := List.mem_singleton.mp secondMember
      have above : 2 ≤ address := names.1
      have below : address < 2 := overwrites.2
      omega
    · exact different rfl

end Periphery.Mmio
