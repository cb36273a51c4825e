import Periphery.CharacterDevice.Device
import Periphery.I2C.Device
import Periphery.Mmio.Construction
import Periphery.Serial.Device
import Periphery.Spi.Device

/-!
# What constructors acquire and destructors release

Each call that a constructor makes may fail.  For every public constructor of
the non-copyable classes, an attempt that throws leaves the host as it was and
an attempt that returns acquires one resource, a descriptor or a mapping; the
destructor releases the resource that the object holds.
-/

namespace Periphery

/-! ## Constructors that open a descriptor -/

/--
A constructor that opens a descriptor: the object holds the one new
descriptor, or the host is as it was.
-/
def OpensDescriptor {Fields : Type} (descriptor : Fields → Int)
    (caller : Nat) (host : Host) :
    Outcome Exception Unit → Fields → Host → Prop
  | .returned _, fields, host' =>
      host.descriptors (descriptor fields) = none ∧
        host' = host.grant caller (descriptor fields)
  | .threw _, _, host' => host' = host

theorem Serial.construct_opens
    (path : String) (baudrate : BitVec 32) (databits : DataBits)
    (parity : Parity) (stopbits : StopBits) (handshake : Handshake)
    (caller : Nat) (raw : Serial) (host : Host) :
    (construct path baudrate databits parity stopbits
        handshake).Ensures (hostKernel caller)
      (OpensDescriptor Serial.fd_ caller host) raw host := by
  simp only [construct, sysOpen, sysTcsetattr, sysClose,
    Routine.ensures_bind, Routine.ensures_ofExcept,
    Routine.ensures_update, Routine.ensures_call,
    Routine.ensures_done, Routine.ensures_ite, Routine.ensures_raise,
    Routine.ensures_pure, Routine.afterwards_returned,
    Routine.afterwards_threw, hostKernel]
  refine ⟨?_, fun _ _ => rfl⟩
  rintro settings - fd _
    (⟨refused, rfl⟩ | ⟨granted, unused, _, rfl⟩)
  · exact ⟨fun _ => rfl, fun accepted => absurd refused accepted⟩
  · refine ⟨fun negative => absurd granted (Int.not_le.mpr negative), ?_⟩
    rintro - error _ rfl
    refine ⟨?_, fun _ => ⟨unused, rfl⟩⟩
    rintro - _ _ rfl
    exact Host.release_grant unused

theorem CharacterDevice.construct_opens
    (path : String) (access : Access)
    (caller : Nat) (raw : CharacterDevice) (host : Host) :
    (construct path access).Ensures (hostKernel caller)
      (OpensDescriptor CharacterDevice.m_fd caller host) raw host := by
  simp only [construct, sysOpen, Routine.ensures_bind,
    Routine.ensures_ofExcept, Routine.ensures_update,
    Routine.ensures_call, Routine.ensures_done, Routine.ensures_ite,
    Routine.ensures_raise, Routine.ensures_pure,
    Routine.afterwards_returned, Routine.afterwards_threw, hostKernel]
  refine ⟨?_, fun _ _ => rfl⟩
  rintro oflag - fd _
    (⟨refused, rfl⟩ | ⟨granted, unused, _, rfl⟩)
  · exact ⟨fun _ => rfl, fun accepted => absurd refused accepted⟩
  · exact
      ⟨fun negative => absurd granted (Int.not_le.mpr negative),
        fun _ => ⟨unused, rfl⟩⟩

/-- A failed request of the constructor of `Spi` gives the device up. -/
theorem Spi.ensures_configure
    {caller : Nat} {host : Host} {fd error : Int} {spi : Spi}
    {post : Outcome Exception Unit → Spi → Host → Prop}
    (unused : host.descriptors fd = none)
    (returned : post (.returned ()) spi (host.grant caller fd))
    (threw : post (.threw badAddress) spi host) :
    (configure fd error).Ensures (hostKernel caller) post
      spi (host.grant caller fd) := by
  simp only [configure, sysClose, Routine.ensures_ite,
    Routine.ensures_bind, Routine.ensures_call, Routine.ensures_done,
    Routine.ensures_raise, Routine.ensures_pure,
    Routine.afterwards_returned, hostKernel]
  refine ⟨?_, fun _ => returned⟩
  rintro - _ _ rfl
  rw [Host.release_grant unused]
  exact threw

theorem Spi.construct_opens
    (path : String) (mode : Mode) (bit_order : BitOrder)
    (speed : BitVec 32) (bits_per_word extra_flags : Byte)
    (caller : Nat) (raw : Spi) (host : Host) :
    (construct path mode bit_order speed bits_per_word
        extra_flags).Ensures (hostKernel caller)
      (OpensDescriptor Spi.m_fd caller host) raw host := by
  simp only [construct, sysOpen, sysIoctl, Routine.ensures_bind,
    Routine.ensures_update, Routine.ensures_call,
    Routine.ensures_done, Routine.ensures_ite, Routine.ensures_raise,
    Routine.afterwards_returned, Routine.afterwards_threw, hostKernel]
  rintro fd _ (⟨refused, rfl⟩ | ⟨granted, unused, _, rfl⟩)
  · exact ⟨fun _ => rfl, fun accepted => absurd refused accepted⟩
  · refine ⟨fun negative => absurd granted (Int.not_le.mpr negative), ?_⟩
    rintro - error _ rfl
    refine ensures_configure unused ?_ rfl
    rintro error _ rfl
    change Routine.Ensures _ (configure fd error >>= _) _ _ _
    rw [Routine.ensures_bind]
    refine ensures_configure unused ?_ rfl
    rintro error _ rfl
    change (configure fd error).Ensures _ _ _ _
    exact ensures_configure unused ⟨unused, rfl⟩ rfl

theorem I2C.construct_opens
    (path : String) (caller : Nat) (raw : I2C) (host : Host) :
    (construct path).Ensures (hostKernel caller)
      (OpensDescriptor I2C.m_fd caller host) raw host := by
  simp only [construct, sysOpen, sysIoctl, sysClose,
    Routine.ensures_bind, Routine.ensures_update,
    Routine.ensures_call, Routine.ensures_done, Routine.ensures_ite,
    Routine.ensures_raise, Routine.ensures_pure,
    Routine.afterwards_returned, Routine.afterwards_threw, hostKernel]
  rintro fd _ (⟨refused, rfl⟩ | ⟨granted, unused, _, rfl⟩)
  · exact ⟨fun _ => rfl, fun accepted => absurd refused accepted⟩
  · refine ⟨fun negative => absurd granted (Int.not_le.mpr negative), ?_⟩
    rintro - ⟨error, supported_funcs⟩ _ rfl
    refine ⟨?_, fun _ => ⟨?_, fun _ => ⟨unused, rfl⟩⟩⟩
    · rintro - _ _ rfl
      exact Host.release_grant unused
    · rintro - _ _ rfl
      exact Host.release_grant unused

/-! ## Objects -/

/-- An object of one of the non-copyable classes. -/
inductive Resource where
  | serial (port : Serial)
  | characterDevice (device : CharacterDevice)
  | spi (device : Spi)
  | i2c (bus : I2C)
  | mmio (window : Mmio)
deriving DecidableEq, Repr

/-- The descriptor that an object holds. -/
def Resource.descriptor? : Resource → Option Int
  | .serial port => some port.fd_
  | .characterDevice device => some device.m_fd
  | .spi device => some device.m_fd
  | .i2c bus => some bus.m_fd
  | .mmio _ => none

/-- A call of a public constructor. -/
inductive Construction where
  | serial (path : String) (baudrate : BitVec 32)
      (databits : Serial.DataBits) (parity : Serial.Parity)
      (stopbits : Serial.StopBits) (handshake : Serial.Handshake)
  | serialPlain (path : String) (baudrate : BitVec 32)
      (databits : Serial.DataBits) (parity : Serial.Parity)
      (stopbits : Serial.StopBits)
  | serialDefault (path : String) (baudrate : BitVec 32)
  | characterDevice (path : String) (access : CharacterDevice.Access)
  | spi (path : String) (mode : Spi.Mode) (bit_order : Spi.BitOrder)
      (speed : BitVec 32) (bits_per_word extra_flags : Byte)
  | spiPlain (path : String) (mode : Spi.Mode)
      (bit_order : Spi.BitOrder) (speed : BitVec 32)
      (bits_per_word : Byte)
  | spiOctets (path : String) (mode : Spi.Mode)
      (bit_order : Spi.BitOrder) (speed : BitVec 32)
  | i2c (path : String)
  | mmio (base size : Word)
deriving Repr

/-- The object that a constructor leaves: none if it throws. -/
def Attempts {Fields : Type} (caller : Nat) (host : Host)
    (constructor : Method Fields Unit) (object : Fields → Resource)
    (made : Option Resource) (host' : Host) : Prop :=
  ∃ raw outcome fields,
    constructor.Executes (hostKernel caller)
        raw host outcome fields host' ∧
      made =
        match outcome with
        | .returned _ => some (object fields)
        | .threw _ => none

/-- An execution of a constructor for the object `caller`. -/
def Construction.Runs (caller : Nat) (host : Host)
    (made : Option Resource) (host' : Host) : Construction → Prop
  | .serial path baudrate databits parity stopbits handshake =>
      Attempts caller host
        (Serial.construct path baudrate databits parity stopbits
          handshake) .serial made host'
  | .serialPlain path baudrate databits parity stopbits =>
      Attempts caller host
        (Serial.constructPlain path baudrate databits parity stopbits)
        .serial made host'
  | .serialDefault path baudrate =>
      Attempts caller host (Serial.constructDefault path baudrate)
        .serial made host'
  | .characterDevice path access =>
      Attempts caller host (CharacterDevice.construct path access)
        .characterDevice made host'
  | .spi path mode bit_order speed bits_per_word extra_flags =>
      Attempts caller host
        (Spi.construct path mode bit_order speed bits_per_word
          extra_flags) .spi made host'
  | .spiPlain path mode bit_order speed bits_per_word =>
      Attempts caller host
        (Spi.constructPlain path mode bit_order speed bits_per_word)
        .spi made host'
  | .spiOctets path mode bit_order speed =>
      Attempts caller host
        (Spi.constructOctets path mode bit_order speed)
        .spi made host'
  | .i2c path => Attempts caller host (I2C.construct path) .i2c made host'
  | .mmio base size =>
      Attempts caller host (Mmio.construct base size) .mmio made host'

/-- What an attempt to construct an object does to the host. -/
inductive Acquires (caller : Nat) (host : Host) :
    Option Resource → Host → Prop where
  | nothing : Acquires caller host none host
  | descriptor {object : Resource} {fd : Int}
      (holds : object.descriptor? = some fd)
      (unused : host.descriptors fd = none) :
      Acquires caller host (some object) (host.grant caller fd)
  | mapping {mmio : Mmio} {mapping : Mapping}
      (owner : mapping.owner = caller)
      (length : mapping.length = mmio.m_aligned_size)
      (offset : mapping.offset = mmio.m_aligned_base)
      (unused : host.mappings mmio.m_ptr = none) :
      Acquires caller host (some (.mmio mmio))
        (host.mapAt mmio.m_ptr mapping)

theorem Attempts.acquires
    {Fields : Type} {descriptor : Fields → Int} {caller : Nat}
    {host host' : Host} {constructor : Method Fields Unit}
    {object : Fields → Resource} {made : Option Resource}
    (attempts : Attempts caller host constructor object made host')
    (opens : ∀ raw,
      constructor.Ensures (hostKernel caller)
        (OpensDescriptor descriptor caller host) raw host)
    (holds : ∀ fields,
      (object fields).descriptor? = some (descriptor fields)) :
    Acquires caller host made host' := by
  rcases attempts with ⟨raw, outcome, fields, executed, rfl⟩
  have opened := (opens raw).of_executes executed
  cases outcome with
  | returned =>
      rcases opened with ⟨unused, rfl⟩
      exact .descriptor (holds fields) unused
  | threw error =>
      obtain rfl := opened
      exact .nothing

/-- Every public constructor acquires what its object holds. -/
theorem Construction.Runs.acquires
    {caller : Nat} {host host' : Host} {made : Option Resource}
    {construction : Construction}
    (runs : construction.Runs caller host made host') :
    Acquires caller host made host' := by
  cases construction with
  | serial path baudrate databits parity stopbits handshake =>
      exact
        Attempts.acquires runs
          (fun raw => Serial.construct_opens _ _ _ _ _ _ _ raw _)
          fun _ => rfl
  | serialPlain path baudrate databits parity stopbits =>
      exact
        Attempts.acquires runs
          (fun raw => Serial.construct_opens _ _ _ _ _ _ _ raw _)
          fun _ => rfl
  | serialDefault path baudrate =>
      exact
        Attempts.acquires runs
          (fun raw => Serial.construct_opens _ _ _ _ _ _ _ raw _)
          fun _ => rfl
  | characterDevice path access =>
      exact
        Attempts.acquires runs
          (fun raw => CharacterDevice.construct_opens _ _ _ raw _)
          fun _ => rfl
  | spi path mode bit_order speed bits_per_word extra_flags =>
      exact
        Attempts.acquires runs
          (fun raw => Spi.construct_opens _ _ _ _ _ _ _ raw _)
          fun _ => rfl
  | spiPlain path mode bit_order speed bits_per_word =>
      exact
        Attempts.acquires runs
          (fun raw => Spi.construct_opens _ _ _ _ _ _ _ raw _)
          fun _ => rfl
  | spiOctets path mode bit_order speed =>
      exact
        Attempts.acquires runs
          (fun raw => Spi.construct_opens _ _ _ _ _ _ _ raw _)
          fun _ => rfl
  | i2c path =>
      exact
        Attempts.acquires runs
          (fun raw => I2C.construct_opens _ _ raw _)
          fun _ => rfl
  | mmio base size =>
      rcases runs with ⟨raw, outcome, fields, executed, rfl⟩
      have constructed :=
        (Mmio.construct_ensures caller base size raw host).of_executes
          executed
      cases outcome with
      | returned =>
          rcases constructed with ⟨mapping, maps, owner, unused, rfl⟩
          exact .mapping owner maps.length maps.offset unused
      | threw error =>
          obtain rfl := constructed
          exact .nothing

/-! ## Destructors -/

/-- An execution of a destructor, however its calls are answered. -/
def Ends {Fields : Type} (caller : Nat) (host : Host)
    (destructor : Method Fields Unit) (fields : Fields)
    (host' : Host) : Prop :=
  ∃ outcome fields',
    destructor.Executes (hostKernel caller)
      fields host outcome fields' host'

/-- An execution of the destructor of an object. -/
def Resource.Destroys (caller : Nat) (host host' : Host) :
    Resource → Prop
  | .serial port => Ends caller host Serial.destruct port host'
  | .characterDevice device =>
      Ends caller host CharacterDevice.destruct device host'
  | .spi device => Ends caller host Spi.destruct device host'
  | .i2c bus => Ends caller host I2C.destruct bus host'
  | .mmio window => Ends caller host Mmio.destruct window host'

/-- The host after an object released what it holds. -/
def Resource.releases (caller : Nat) (host : Host) : Resource → Host
  | .serial port => host.release caller port.fd_
  | .characterDevice device => host.release caller device.m_fd
  | .spi device => host.release caller device.m_fd
  | .i2c bus => host.release caller bus.m_fd
  | .mmio window =>
      host.unmapAt window.m_ptr window.m_aligned_size

theorem Resource.releases_of_descriptor
    {caller : Nat} {host : Host} {fd : Int} (object : Resource)
    (holds : object.descriptor? = some fd) :
    object.releases caller host = host.release caller fd := by
  cases object <;> cases holds <;> rfl

theorem Resource.eq_mmio_of_no_descriptor
    (object : Resource) (holds : object.descriptor? = none) :
    ∃ window, object = .mmio window := by
  cases object <;> cases holds
  exact ⟨_, rfl⟩

/-- Every destructor releases what its object holds and nothing else. -/
theorem Resource.Destroys.eq_releases
    {caller : Nat} {host host' : Host} {object : Resource}
    (destroys : object.Destroys caller host host') :
    host' = object.releases caller host := by
  cases object with
  | serial port =>
      rcases destroys with ⟨_, _, _, _, rfl, _, _, rfl⟩
      rfl
  | characterDevice device =>
      rcases destroys with ⟨_, _, _, _, rfl, _, _, rfl⟩
      rfl
  | spi device =>
      rcases destroys with ⟨_, _, _, _, rfl, _, _, rfl⟩
      rfl
  | i2c bus =>
      rcases destroys with ⟨_, _, _, _, rfl, _, _, rfl⟩
      rfl
  | mmio window =>
      rcases destroys with ⟨_, _, _, _, rfl, _, _, rfl⟩
      rfl

end Periphery
