import Mathlib.Logic.Relation
import Periphery.Resources.Acquisition
import Periphery.Table

/-!
# Every resource is accounted for

Objects of the non-copyable classes come and go in any order, each under a
number of its own, while the rest of the process opens and closes descriptors
too.  At every moment the descriptors and mappings that the library has open
are exactly those of the live objects, and no destructor or constructor has
closed a descriptor that it did not own.
-/

namespace Periphery

/-! ## The process -/

/-- The host and the live objects. -/
structure Process where
  host : Host
  live : Nat → Option Resource

/-- A process that has not used the library yet. -/
def Process.Fresh (process : Process) : Prop :=
  (∀ fd, process.host.descriptors fd = none) ∧
    (∀ address, process.host.mappings address = none) ∧
    process.host.strayCloses = 0 ∧ ∀ number, process.live number = none

/--
One attempt to construct an object, the destruction of a live object, or a
change of the descriptors that are open elsewhere.
-/
inductive Process.Step (process : Process) : Process → Prop where
  | constructed {number : Nat} {construction : Construction}
      {object : Resource} {host : Host}
      (unused : process.live number = none)
      (runs : construction.Runs number process.host (some object) host) :
      process.Step
        ⟨host, Function.update process.live number (some object)⟩
  | failed {number : Nat} {construction : Construction} {host : Host}
      (unused : process.live number = none)
      (runs : construction.Runs number process.host none host) :
      process.Step ⟨host, process.live⟩
  | destroyed {number : Nat} {object : Resource} {host : Host}
      (lives : process.live number = some object)
      (destroys : object.Destroys number process.host host) :
      process.Step ⟨host, Function.update process.live number none⟩
  | elsewhere {foreign : Int → Bool}
      (apart : ∀ fd, foreign fd = true →
        process.host.descriptors fd = none) :
      process.Step
        ⟨{ process.host with foreign := foreign }, process.live⟩

/-- Any number of steps. -/
def Process.Reaches : Process → Process → Prop :=
  Relation.ReflTransGen Process.Step

/-! ## Accounts -/

/--
The descriptors of the library are those that live objects hold, and its
mappings are those of live `Mmio` objects with the size they were mapped
with.  No descriptor was closed by a caller that did not own it.
-/
structure Process.Accounted (process : Process) : Prop where
  descriptors : ∀ fd owner,
    process.host.descriptors fd = some owner ↔
      ∃ object, process.live owner = some object ∧
        object.descriptor? = some fd
  mappings : ∀ address mapping,
    process.host.mappings address = some mapping ↔
      ∃ mmio, process.live mapping.owner = some (.mmio mmio) ∧
        mmio.m_ptr = address ∧
        mapping.length = mmio.m_aligned_size ∧
        mapping.offset = mmio.m_aligned_base
  noStrayClose : process.host.strayCloses = 0

theorem Process.Fresh.accounted
    {process : Process} (fresh : process.Fresh) :
    process.Accounted := by
  rcases fresh with ⟨noDescriptor, noMapping, noStray, noObject⟩
  refine ⟨fun fd owner => ?_, fun address mapping => ?_, noStray⟩
  · simp [noDescriptor, noObject]
  · simp [noMapping, noObject]

section OneObject

variable
    {process : Process} {number : Nat} {object : Resource} {fd : Int}

/-- A new object with a new descriptor. -/
theorem Process.Accounted.granted
    (accounted : process.Accounted)
    (unused : process.live number = none)
    (holds : object.descriptor? = some fd)
    (free : process.host.descriptors fd = none) :
    Process.Accounted
      ⟨process.host.grant number fd,
        Function.update process.live number (some object)⟩ where
  descriptors other owner := by
    simp only [Host.grant, Table.update_some_eq_some_iff free,
      Table.update_some_eq_some_iff unused, accounted.descriptors]
    constructor
    · rintro (⟨rfl, rfl⟩ | ⟨found, lives, held⟩)
      · exact ⟨object, .inl ⟨rfl, rfl⟩, holds⟩
      · exact ⟨found, .inr lives, held⟩
    · rintro ⟨found, ⟨rfl, rfl⟩ | lives, held⟩
      · exact .inl ⟨Option.some.inj (held.symm.trans holds), rfl⟩
      · exact .inr ⟨found, lives, held⟩
  mappings address mapping := by
    simp only [Host.grant, Table.update_some_eq_some_iff unused,
      accounted.mappings]
    constructor
    · rintro ⟨mmio, lives, described⟩
      exact ⟨mmio, .inr lives, described⟩
    · rintro ⟨mmio, ⟨_, rfl⟩ | lives, described⟩
      · cases holds
      · exact ⟨mmio, lives, described⟩
  noStrayClose := accounted.noStrayClose

/-- A new window with a new mapping. -/
theorem Process.Accounted.mapped
    (accounted : process.Accounted)
    (unused : process.live number = none)
    {mmio : Mmio} {mapping : Mapping}
    (owner : mapping.owner = number)
    (length : mapping.length = mmio.m_aligned_size)
    (offset : mapping.offset = mmio.m_aligned_base)
    (free : process.host.mappings mmio.m_ptr = none) :
    Process.Accounted
      ⟨process.host.mapAt mmio.m_ptr mapping,
        Function.update process.live number (some (.mmio mmio))⟩ where
  descriptors fd owner := by
    simp only [Host.mapAt, Table.update_some_eq_some_iff unused,
      accounted.descriptors]
    constructor
    · rintro ⟨found, lives, held⟩
      exact ⟨found, .inr lives, held⟩
    · rintro ⟨found, ⟨_, rfl⟩ | lives, held⟩
      · cases held
      · exact ⟨found, lives, held⟩
  mappings address other := by
    simp only [Host.mapAt, Table.update_some_eq_some_iff free,
      Table.update_some_eq_some_iff unused, accounted.mappings]
    constructor
    · rintro (⟨rfl, rfl⟩ | ⟨found, lives, described⟩)
      · exact ⟨mmio, .inl ⟨owner, rfl⟩, rfl, length, offset⟩
      · exact ⟨found, .inr lives, described⟩
    · rintro ⟨found, ⟨ownerToo, same⟩ | lives, described⟩
      · cases same
        rcases described with ⟨rfl, lengthToo, offsetToo⟩
        have same : other = mapping :=
          Mapping.ext (ownerToo.trans owner.symm)
            (lengthToo.trans length.symm) (offsetToo.trans offset.symm)
        exact .inl ⟨rfl, same⟩
      · exact .inr ⟨found, lives, described⟩
  noStrayClose := accounted.noStrayClose

/-- An object that closed its descriptor and is gone. -/
theorem Process.Accounted.closed
    (accounted : process.Accounted)
    (lives : process.live number = some object)
    (holds : object.descriptor? = some fd) :
    Process.Accounted
      ⟨process.host.release number fd,
        Function.update process.live number none⟩ := by
  have owned : process.host.descriptors fd = some number :=
    (accounted.descriptors fd number).mpr ⟨object, lives, holds⟩
  rw [Host.release, if_pos owned]
  refine ⟨fun other owner => ?_, fun address mapping => ?_, ?_⟩
  · simp only [Table.update_none_eq_some_iff]
    constructor
    · rintro ⟨different, ownedToo⟩
      rcases (accounted.descriptors other owner).mp ownedToo with
        ⟨found, livesToo, held⟩
      refine ⟨found, ⟨?_, livesToo⟩, held⟩
      rintro rfl
      cases lives.symm.trans livesToo
      exact different (Option.some.inj (held.symm.trans holds))
    · rintro ⟨found, ⟨different, livesToo⟩, held⟩
      have ownedToo :=
        (accounted.descriptors other owner).mpr ⟨found, livesToo, held⟩
      refine ⟨?_, ownedToo⟩
      rintro rfl
      exact different (Option.some.inj (ownedToo.symm.trans owned))
  · simp only [Table.update_none_eq_some_iff, accounted.mappings]
    constructor
    · rintro ⟨mmio, livesToo, described⟩
      refine ⟨mmio, ⟨fun same => ?_, livesToo⟩, described⟩
      rw [same] at livesToo
      cases lives.symm.trans livesToo
      cases holds
    · rintro ⟨mmio, ⟨_, livesToo⟩, described⟩
      exact ⟨mmio, livesToo, described⟩
  · exact accounted.noStrayClose

/-- A window that removed its mapping and is gone. -/
theorem Process.Accounted.unmapped
    (accounted : process.Accounted) {window : Mmio}
    (lives : process.live number = some (.mmio window)) :
    Process.Accounted
      ⟨process.host.unmapAt window.m_ptr window.m_aligned_size,
        Function.update process.live number none⟩ := by
  have mapped :
      process.host.mappings window.m_ptr =
        some
          ⟨number, window.m_aligned_size, window.m_aligned_base⟩ :=
    (accounted.mappings _ _).mpr ⟨window, lives, rfl, rfl, rfl⟩
  simp only [Host.unmapAt, mapped, if_true]
  refine ⟨fun fd owner => ?_, fun address mapping => ?_, ?_⟩
  · simp only [Table.update_none_eq_some_iff, accounted.descriptors]
    constructor
    · rintro ⟨found, livesToo, held⟩
      refine ⟨found, ⟨?_, livesToo⟩, held⟩
      rintro rfl
      cases lives.symm.trans livesToo
      cases held
    · rintro ⟨found, ⟨_, livesToo⟩, held⟩
      exact ⟨found, livesToo, held⟩
  · simp only [Table.update_none_eq_some_iff]
    constructor
    · rintro ⟨different, mappedToo⟩
      rcases (accounted.mappings address mapping).mp mappedToo with
        ⟨mmio, livesToo, pointed, sizes⟩
      refine ⟨mmio, ⟨fun same => ?_, livesToo⟩, pointed, sizes⟩
      rw [same] at livesToo
      cases lives.symm.trans livesToo
      exact different pointed.symm
    · rintro ⟨mmio, ⟨different, livesToo⟩, described⟩
      have mappedToo :=
        (accounted.mappings address mapping).mpr
          ⟨mmio, livesToo, described⟩
      refine ⟨?_, mappedToo⟩
      rintro rfl
      rw [mapped] at mappedToo
      exact different
        (congrArg Mapping.owner (Option.some.inj mappedToo)).symm
  · exact accounted.noStrayClose

/-- A new object brings exactly what it acquired into the accounts. -/
theorem Process.Accounted.constructed
    {host : Host} (accounted : process.Accounted)
    (unused : process.live number = none)
    (acquires : Acquires number process.host (some object) host) :
    Process.Accounted
      ⟨host, Function.update process.live number (some object)⟩ := by
  cases acquires with
  | descriptor holds free => exact accounted.granted unused holds free
  | mapping owner length offset free =>
      exact accounted.mapped unused owner length offset free

/-- A destroyed object takes exactly what it held out of the accounts. -/
theorem Process.Accounted.destroyed
    (accounted : process.Accounted)
    (lives : process.live number = some object) :
    Process.Accounted
      ⟨object.releases number process.host,
        Function.update process.live number none⟩ := by
  cases holds : object.descriptor? with
  | some fd =>
      rw [object.releases_of_descriptor holds]
      exact accounted.closed lives holds
  | none =>
      rcases object.eq_mmio_of_no_descriptor holds with ⟨window, rfl⟩
      exact accounted.unmapped lives

end OneObject

/-- Every step keeps the accounts. -/
theorem Process.Accounted.step
    {process next : Process} (accounted : process.Accounted)
    (step : process.Step next) : next.Accounted := by
  cases step with
  | constructed unused runs =>
      exact accounted.constructed unused runs.acquires
  | failed unused runs =>
      cases runs.acquires with
      | nothing => exact accounted
  | destroyed lives destroys =>
      rw [destroys.eq_releases]
      exact accounted.destroyed lives
  | elsewhere apart =>
      exact
        ⟨accounted.descriptors, accounted.mappings,
          accounted.noStrayClose⟩

/--
In every run of a process that starts without using the library, after every
construction attempt and every destruction, all descriptors and mappings are
accounted for, and no descriptor is held by two objects.
-/
theorem reaches_accounted
    {process later : Process} (fresh : process.Fresh)
    (reaches : process.Reaches later) :
    later.Accounted ∧
      ∀ first second object other fd,
        later.live first = some object →
        later.live second = some other →
        object.descriptor? = some fd → other.descriptor? = some fd →
          first = second := by
  have accounted : later.Accounted := by
    induction reaches with
    | refl => exact fresh.accounted
    | tail _ step induction => exact induction.step step
  refine ⟨accounted, ?_⟩
  intro first second object other fd lives livesToo holds holdsToo
  have owned :=
    (accounted.descriptors fd first).mpr ⟨object, lives, holds⟩
  have ownedToo :=
    (accounted.descriptors fd second).mpr ⟨other, livesToo, holdsToo⟩
  exact Option.some.inj (owned.symm.trans ownedToo)

/-! ## A port, a window and a device -/

/-- The process on the idle host, before it uses the library. -/
def idleProcess : Process where
  host := Mmio.idleHost
  live _ := none

/-- The idle process after it made the window of one byte. -/
def windowProcess : Process where
  host := Mmio.idleHost.mapAt 4096 ⟨0, 2, 0⟩
  live :=
    Function.update idleProcess.live 0 (some (.mmio Mmio.byteWindow))

/-- Then it opened a device, and the window is gone. -/
def deviceProcess : Process where
  host := (windowProcess.host.grant 1 3).unmapAt 4096 2
  live :=
    Function.update
      (Function.update windowProcess.live 1
        (some (.characterDevice ⟨3⟩)))
      0 none

/-- A port whose settings are refused is closed again. -/
theorem port_refused :
    Construction.Runs 0 idleProcess.host none idleProcess.host
      (.serialDefault "/dev/ttyS0" 9600) := by
  refine ⟨⟨-1⟩, .threw badAddress, ⟨3⟩, ?_, rfl⟩
  refine
    Routine.Executes.call (3 : Int) (.inr ⟨by decide, rfl, rfl, rfl⟩) ?_
  apply Routine.Executes.call (-1 : Int) rfl
  apply Routine.Executes.call (0 : Int) rfl
  rw [Host.release_grant rfl]
  exact ⟨rfl, rfl, rfl⟩

/--
A port cannot be constructed, a window and a device can, and the window is
destroyed before the device.
-/
theorem idleProcess_reaches_deviceProcess :
    idleProcess.Reaches deviceProcess := by
  have window :
      Construction.Runs 0 idleProcess.host
        (some (.mmio Mmio.byteWindow)) windowProcess.host (.mmio 1 1) :=
    ⟨_, _, _, Mmio.construct_byteWindow, rfl⟩
  have device :
      Construction.Runs 1 windowProcess.host
        (some (.characterDevice ⟨3⟩)) (windowProcess.host.grant 1 3)
        (.characterDevice "/dev/ttyS1" .readOnly) := by
    refine ⟨⟨-1⟩, .returned (), ⟨3⟩, ?_, rfl⟩
    apply Routine.Executes.call (3 : Int)
      (.inr ⟨by decide, rfl, rfl, rfl⟩)
    exact ⟨rfl, rfl, rfl⟩
  have destroyed :
      (Resource.mmio Mmio.byteWindow).Destroys 0
        (windowProcess.host.grant 1 3) deviceProcess.host :=
    ⟨.returned (), Mmio.byteWindow,
      Routine.Executes.call (0 : Int) rfl ⟨rfl, rfl, rfl⟩⟩
  have refused : idleProcess.Reaches idleProcess :=
    .single (.failed rfl port_refused)
  have mapped : idleProcess.Reaches windowProcess :=
    refused.tail (.constructed rfl window)
  exact (mapped.tail (.constructed rfl device)).tail
    (.destroyed rfl destroyed)

/-- The one descriptor of that process is accounted for. -/
theorem deviceProcess_accounted : deviceProcess.Accounted := by
  have fresh : idleProcess.Fresh :=
    ⟨fun _ => rfl, fun _ => rfl, rfl, fun _ => rfl⟩
  exact (reaches_accounted fresh idleProcess_reaches_deviceProcess).1

end Periphery
