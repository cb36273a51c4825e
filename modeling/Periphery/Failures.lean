import Periphery.Gpio.Report
import Periphery.I2C.Device
import Periphery.Mmio.Device
import Periphery.Routine.Failure
import Periphery.Serial.Settings
import Periphery.Spi.Conversation
import Periphery.Stream.Waiting

/-!
# Failures of calls

The constructors and the member functions that talk to the kernel, of all
classes.  Each checks the answers of its requests, and throws if one of them
says that the request failed.  Only destructors take no notice.
-/

namespace Periphery

/-! ## Failed requests -/

/-- The result that an `ioctl` returns, next to the data it passes out. -/
def Ioctl.result : (request : Ioctl) → request.Answer → Int
  | .spiIocRdMode, answer => answer.1
  | .spiIocRdLsbFirst, answer => answer.1
  | .spiIocRdBitsPerWord, answer => answer.1
  | .spiIocRdMaxSpeedHz, answer => answer.1
  | .i2cFuncs, answer => answer.1
  | .gpioGetLinehandle _, answer => answer.1
  | .gpioGetLineevent _, answer => answer.1
  | .gpiohandleGetLineValues, answer => answer.1
  | .tiocinq, answer => answer.1
  | .tiocoutq, answer => answer.1
  | .spiIocWrMode _, answer => answer
  | .spiIocWrLsbFirst _, answer => answer
  | .spiIocWrBitsPerWord _, answer => answer
  | .spiIocWrMaxSpeedHz _, answer => answer
  | .spiIocMessage _, answer => answer
  | .i2cRdwr _, answer => answer
  | .gpioGetChipinfo, answer => answer
  | .gpiohandleSetLineValues _, answer => answer

/-- The request failed, or found an adapter without plain I2C transfers. -/
def Syscall.Failed : (request : Syscall) → request.Answer → Prop
  | .open _ _, (fd : Int) => fd < 0
  | .close _, (error : Int) => error < 0
  | .ioctl _ .i2cFuncs, answer =>
      answer.1 < 0 ∨ answer.2 &&& I2C_FUNC_I2C = 0
  | .ioctl _ request, answer => request.result answer < 0
  | .tcsetattr _ _, (error : Int) => error < 0
  | .tcdrain _, (error : Int) => error < 0
  | .sysconfPagesize, _ => False
  | .mmap _ _ _, address => address = mapFailed
  | .munmap _ _, (error : Int) => error < 0
  | .read _ _ _, (ret : Int) => ret < 0
  | .write _ _ _, (ret : Int) => ret < 0
  | .select _ _, answer => answer.1 < 0
  | .poll _ _ _, (ret : Int) => ret < 0

/-- Any request may fail; `close` never answers a positive number. -/
def failures : Faults posix where
  Occurs
    | .close _, (error : Int) => error ≤ 0
    | _, _ => True
  Failed := Syscall.Failed
  Releases
    | .close _ => True
    | .munmap _ _ => True
    | _ => False

/-! ## Constructors -/

theorem Mmio.construct_heeds (base size : Word) (raw : Mmio) :
    (Mmio.construct base size).Heeds failures raw := by
  unfold Mmio.construct
  refine fun page _ => ⟨False.elim, fun _ => ?_⟩
  refine fun fd _ => Routine.checks .rfl trivial fun _ => ?_
  refine fun ptr _ =>
    Routine.checks .rfl ⟨trivial, fun _ => trivial⟩ fun _ => ?_
  refine fun (error : Int) (occurs : error ≤ 0) =>
    Routine.checks ?_ ⟨trivial, fun _ => trivial⟩ fun _ => trivial
  change error < 0 ↔ error ≠ 0
  omega

/-- Why the constructor refuses an access. -/
def CharacterDevice.Access.refusal :
    CharacterDevice.Access → Option Exception
  | .other _ => some (.invalidArgument "access invalid")
  | _ => none

theorem CharacterDevice.construct_responds
    (path : String) (access : CharacterDevice.Access)
    (raw : CharacterDevice) :
    (CharacterDevice.construct path access).Responds failures
      access.refusal raw := by
  have opened : ∀ oflag, access.flags = .ok oflag →
      (CharacterDevice.construct path access).Heeds failures raw := by
    intro oflag known
    rw [CharacterDevice.construct, known]
    exact fun fd _ => Routine.checks .rfl trivial fun _ => trivial
  cases access with
  | readOnly => exact opened _ rfl
  | writeOnly => exact opened _ rfl
  | readWrite => exact opened _ rfl
  | other value => rfl

/-- The constructor refuses arguments with a complaint. -/
theorem Serial.construct_responds
    (path : String) (arguments : Serial.Arguments) (raw : Serial) :
    (arguments.construct path).Responds failures
      (arguments.complaints.head?.map .invalidArgument) raw := by
  have judged := arguments.judged
  unfold Serial.Arguments.settings at judged
  rw [Serial.Arguments.construct, Serial.construct]
  cases complaints : arguments.complaints with
  | nil =>
      rw [complaints] at judged
      rcases judged with ⟨termios, accepted⟩
      rw [accepted]
      refine fun fd _ => Routine.checks .rfl trivial fun _ => ?_
      exact fun error _ =>
        Routine.checks .rfl ⟨trivial, fun _ => trivial⟩ fun _ => trivial
  | cons what others =>
      rw [complaints] at judged
      unfold Serial.Judges at judged
      rw [judged]
      rfl

theorem I2C.construct_heeds (path : String) (raw : I2C) :
    (I2C.construct path).Heeds failures raw := by
  refine fun fd _ => Routine.checks .rfl trivial fun _ => ?_
  rintro ⟨error, supported_funcs⟩ _
  by_cases negative : error < 0
  · exact
      Routine.checks ⟨fun _ => negative, fun _ => .inl negative⟩
        ⟨trivial, fun _ => trivial⟩
        fun succeeded => absurd (.inl negative) succeeded
  · have lacks :
        (error < 0 ∨ supported_funcs &&& I2C_FUNC_I2C = 0) ↔
          supported_funcs &&& I2C_FUNC_I2C = 0 :=
      or_iff_right negative
    change
      (error < 0 ∨ supported_funcs &&& I2C_FUNC_I2C = 0 →
          Routine.GivesUp failures (if error < 0 then _ else _) _) ∧
        (¬ (error < 0 ∨ supported_funcs &&& I2C_FUNC_I2C = 0) →
          Routine.Heeds failures (if error < 0 then _ else _) _)
    rw [if_neg negative]
    exact
      Routine.checks lacks ⟨trivial, fun _ => trivial⟩ fun _ => trivial

theorem GpioChip.construct_heeds (path : String) (raw : GpioChip) :
    (GpioChip.construct path).Heeds failures raw := by
  refine fun fd _ => Routine.checks .rfl trivial fun _ => ?_
  exact fun error _ =>
    Routine.checks .rfl ⟨trivial, fun _ => trivial⟩ fun _ => trivial

theorem Spi.configure_checks (fd error : Int) (spi : Spi) :
    (error < 0 → (Spi.configure fd error).GivesUp failures spi) ∧
      (¬ error < 0 → (Spi.configure fd error).Heeds failures spi) :=
  Routine.checks .rfl ⟨trivial, fun _ => trivial⟩ fun _ => trivial

theorem Spi.construct_heeds
    (path : String) (mode : Spi.Mode) (bit_order : Spi.BitOrder)
    (speed : BitVec 32) (bits_per_word extra_flags : Byte) (raw : Spi) :
    (Spi.construct path mode bit_order speed bits_per_word
      extra_flags).Heeds failures raw := by
  refine fun fd _ => Routine.checks .rfl trivial fun _ => ?_
  refine Routine.heeds_ask fun error _ => ?_
  refine Routine.checks_bind (Spi.configure_checks fd error _) fun _ _ => ?_
  refine Routine.heeds_ask fun error _ => ?_
  refine Routine.checks_bind (Spi.configure_checks fd error _) fun _ _ => ?_
  exact fun error _ => Spi.configure_checks fd error _

/-! ## Pins -/

namespace GpioPin

theorem closeHandle_heeds (pin : GpioPin) :
    closeHandle.Heeds failures pin := by
  change Routine.Heeds failures (if pin.m_fd ≥ 0 then _ else pure ()) pin
  split_ifs with held
  · exact fun success _ => Routine.checks .rfl trivial fun _ => trivial
  · trivial

theorem openLine_heeds
    (flags : BitVec 32) (direction : Direction) (edge : Edge)
    (invert : Invert) (pin : GpioPin) :
    (openLine flags direction edge invert).Heeds failures pin := by
  unfold openLine
  split_ifs
  · exact fun ⟨success, fd⟩ _ =>
      Routine.checks .rfl trivial fun _ => trivial
  · exact fun ⟨success, fd⟩ _ =>
      Routine.checks .rfl trivial fun _ => trivial
  · exact fun ⟨success, fd⟩ _ =>
      Routine.checks .rfl trivial fun _ => trivial

/-- What the header lacks of a configuration, if it lacks something. -/
def Attributes.unsupported (header : GpioHeader) (wanted : Attributes) :
    Option Exception :=
  if header.requestDisable = none ∧ wanted.bias ≠ .default then
    some (.runtimeError
      "Kernel version does not support configuring GPIO line bias.")
  else if header.openDrain = false ∧ wanted.drive ≠ .default then
    some (.runtimeError
      "Kernel version does not support configuring GPIO line drive.")
  else
    none

/-- What the header lacks for a call; a call without effect lacks nothing. -/
def Change.refusal (header : GpioHeader) (change : Change)
    (pin : GpioPin) : Option Exception :=
  if pin.attributes.renews change then
    (pin.attributes.changed change).unsupported header
  else
    none

theorem Bias.toRequest_eq (header : GpioHeader) (bias : Bias) :
    (∃ flags, bias.toRequest header = .ok flags) ∧
        ¬ (header.requestDisable = none ∧ bias ≠ .default) ∨
      bias.toRequest header =
          .error (.runtimeError
            "Kernel version does not support configuring GPIO line bias.") ∧
        header.requestDisable = none ∧ bias ≠ .default := by
  unfold Bias.toRequest
  cases header.requestDisable with
  | none => cases bias <;> simp
  | some flag => cases bias <;> simp

theorem Drive.toRequest_eq (header : GpioHeader) (drive : Drive) :
    (∃ flags, drive.toRequest header = .ok flags) ∧
        ¬ (header.openDrain = false ∧ drive ≠ .default) ∨
      drive.toRequest header =
          .error (.runtimeError
            "Kernel version does not support configuring GPIO line drive.") ∧
        header.openDrain = false ∧ drive ≠ .default := by
  unfold Drive.toRequest
  cases header.openDrain <;> cases drive <;> simp

/-- A configuration has flags, unless the header lacks some of it. -/
theorem Attributes.flags_cases (header : GpioHeader) (wanted : Attributes) :
    (∃ flags, wanted.flags header = .ok flags) ∧
        wanted.unsupported header = none ∨
      ∃ error, wanted.flags header = .error error ∧
        wanted.unsupported header = some error := by
  unfold Attributes.flags Attributes.unsupported
  rcases Bias.toRequest_eq header wanted.bias with
    ⟨⟨bias, accepted⟩, supported⟩ | ⟨rejected, lacks⟩
  · rw [accepted, if_neg supported]
    rcases Drive.toRequest_eq header wanted.drive with
      ⟨⟨drive, accepted⟩, supported⟩ | ⟨rejected, lacks⟩
    · rw [accepted, if_neg supported]
      exact .inl ⟨⟨_, rfl⟩, rfl⟩
    · rw [rejected, if_pos lacks]
      exact .inr ⟨_, rfl, rfl⟩
  · rw [rejected, if_pos lacks]
    exact .inr ⟨_, rfl, rfl⟩

/-- `reopen` refuses what the header lacks, and else heeds failures. -/
theorem reopen_responds
    (header : GpioHeader) (wanted : Attributes) (pin : GpioPin) :
    (reopen header wanted.direction wanted.edge wanted.bias wanted.drive
      wanted.invert).Responds failures (wanted.unsupported header) pin := by
  rcases wanted.flags_cases header with
    ⟨⟨flags, supported⟩, complete⟩ | ⟨error, unsupported, lacks⟩
  · rw [complete]
    rw [reopen, requestFlags_eq, supported]
    refine (closeHandle_heeds pin).bind fun _ pin' => ?_
    exact (openLine_heeds _ _ _ _ pin').bind fun _ _ => trivial
  · rw [lacks]
    rw [reopen, requestFlags_eq, unsupported]
    rfl

/-- The body shared by the five setters. -/
theorem setter_responds
    (header : GpioHeader) (change : Change) (pin : GpioPin)
    {_ : Decidable (change.Differs pin)} :
    (if change.Differs pin then
        reopen header (change.wanted pin).direction
          (change.wanted pin).edge (change.wanted pin).bias
          (change.wanted pin).drive (change.wanted pin).invert
      else pure ()).Responds failures (change.refusal header pin) pin := by
  have renews := renews_attributes change pin
  unfold Change.refusal
  rw [changed_attributes]
  by_cases differs : change.Differs pin
  · rw [if_pos differs, if_pos (renews.mpr differs)]
    exact reopen_responds header (change.wanted pin) pin
  · rw [if_neg differs, if_neg (mt renews.mp differs)]
    trivial

/-- A call refuses what the header lacks, and else heeds failures. -/
theorem Change.perform_responds
    (header : GpioHeader) (change : Change) (pin : GpioPin) :
    (change.perform header).Responds failures
      (change.refusal header pin) pin := by
  cases change with
  | direction value => exact setter_responds header (.direction value) pin
  | edge value => exact setter_responds header (.edge value) pin
  | bias value => exact setter_responds header (.bias value) pin
  | drive value => exact setter_responds header (.drive value) pin
  | invert value => exact setter_responds header (.invert value) pin
  | reconfigure settings => exact reopen_responds header settings pin

theorem get_heeds (pin : GpioPin) : get.Heeds failures pin :=
  fun _ _ => Routine.checks .rfl trivial fun _ => trivial

theorem set_heeds (value : State) (pin : GpioPin) :
    (set value).Heeds failures pin :=
  fun _ _ => Routine.checks .rfl trivial fun _ => trivial

end GpioPin

/-! ## SPI devices -/

namespace Spi

theorem ioctlWithThrow_checks (error : Int) (spi : Spi) :
    (error < 0 → (ioctlWithThrow error).GivesUp failures spi) ∧
      (¬ error < 0 → (ioctlWithThrow error).Heeds failures spi) :=
  Routine.checks .rfl trivial fun _ => trivial

theorem ioctlGet_checks
    {Register : Type} (answer : Int × Register) (spi : Spi) :
    (answer.1 < 0 → (ioctlGet answer).GivesUp failures spi) ∧
      (¬ answer.1 < 0 → (ioctlGet answer).Heeds failures spi) :=
  Routine.checks .rfl trivial fun _ => trivial

theorem Call.method_heeds (call : Call) (spi : Spi) :
    call.method.Heeds failures spi := by
  rcases call with (_ | _ | _ | _) | _ | _ | _ | _ | _
  · refine Routine.heeds_self (Routine.heeds_ask fun answer _ => ?_)
    refine Routine.checks_bind (ioctlGet_checks answer spi) ?_
    exact fun _ _ error _ => ioctlWithThrow_checks error _
  · exact fun error _ => ioctlWithThrow_checks error spi
  · exact fun error _ => ioctlWithThrow_checks error spi
  · exact fun error _ => ioctlWithThrow_checks error spi
  · refine Routine.heeds_self (Routine.heeds_ask fun answer _ => ?_)
    exact Routine.checks_bind (ioctlGet_checks answer spi) fun _ _ => trivial
  · refine Routine.heeds_self (Routine.heeds_ask fun answer _ => ?_)
    exact Routine.checks_bind (ioctlGet_checks answer spi) fun _ _ => trivial
  · exact fun answer _ => ioctlGet_checks answer spi
  · exact fun answer _ => ioctlGet_checks answer spi
  · exact fun error _ => ioctlWithThrow_checks error spi

end Spi

/-! ## Buses and ports -/

theorem I2C.transfer_heeds
    (objects : I2C.Messages) (addr : BitVec 16) (messages : List Nat)
    (overload : I2C.Overload) (i2c : I2C) :
    (overload.transfer objects addr messages).Heeds failures i2c := by
  cases overload with
  | arguments =>
      exact fun error _ => Routine.checks .rfl trivial fun _ => trivial
  | initializerList =>
      exact fun error _ => Routine.checks .rfl trivial fun _ => trivial
  | iteratorRange =>
      exact fun error _ => Routine.checks .rfl trivial fun _ => trivial

namespace Stream

theorem write_reports (fd : Int) (buf : ConstBuffer) :
    (write fd buf).Reports failures none () := by
  refine Routine.Loop.reports_whileDo fun cursor _ ret _ => ?_
  exact Routine.checks .rfl trivial fun _ => trivial

theorem readChecked_heeds (fd : Int) (buf : MutableBuffer) :
    (readChecked fd buf).Heeds failures () :=
  fun _ _ => Routine.checks .rfl trivial fun _ => trivial

theorem read_heeds (fd : Int) (buf : MutableBuffer) :
    (read fd buf).Heeds failures () :=
  (readChecked_heeds fd buf).bind fun _ _ => trivial

theorem readAll_reports (fd : Int) (buf : MutableBuffer) :
    (readAll fd buf).Reports failures none () := by
  refine Routine.Loop.reports_whileDo fun cursor _ => ?_
  exact (read_heeds fd cursor).bind fun _ _ => trivial

theorem waitReadable_heeds (fd timeout : Int) (tv : Timeval) :
    (waitReadable fd timeout tv).Heeds failures () := by
  unfold waitReadable
  split_ifs
  · exact fun ⟨_, _⟩ _ => Routine.checks .rfl trivial fun _ => trivial
  · trivial

theorem readTimeout_heeds
    (fd : Int) (buf : MutableBuffer) (timeout : Int) :
    (readTimeout fd buf timeout).Heeds failures () := by
  refine (waitReadable_heeds fd timeout _).bind ?_
  rintro (_ | left) _
  · trivial
  · exact read_heeds fd buf

theorem readAllTimeout_reports
    (fd : Int) (original : MutableBuffer) (timeout : Int) :
    (readAllTimeout fd original timeout).Reports failures none () := by
  apply Routine.Loop.reports_rounds
  rintro ⟨buf, tv⟩ _
  refine (waitReadable_heeds fd timeout tv).bind ?_
  rintro (_ | left) _
  · trivial
  · refine (readChecked_heeds fd buf).bind fun ret _ => ?_
    dsimp only
    split_ifs
    · trivial
    · trivial

theorem queueLength_checks (answer : Int × BitVec 32) :
    (answer.1 < 0 → (queueLength answer).GivesUp failures ()) ∧
      (¬ answer.1 < 0 → (queueLength answer).Heeds failures ()) :=
  Routine.checks .rfl trivial fun _ => trivial

end Stream

/-- All calls on a port report failures. -/
theorem PortCall.reports {port : StreamPort} (call : PortCall port) :
    call.perform.Reports failures none () := by
  cases call with
  | write buf =>
      change (port.write buf).Reports failures none ()
      rw [StreamPort.write_eq]
      exact Stream.write_reports port.fd buf
  | read call =>
      change (port.perform call).Reports failures none ()
      cases call with
      | read buf =>
          rw [StreamPort.perform_read]
          exact Routine.Loop.reports_once (Stream.read_heeds port.fd buf)
      | readAll buf =>
          rw [StreamPort.perform_readAll]
          exact Stream.readAll_reports port.fd buf
      | readTimeout buf timeout =>
          rw [StreamPort.perform_readTimeout]
          exact
            Routine.Loop.reports_once
              (Stream.readTimeout_heeds port.fd buf timeout)
      | readAllTimeout buf timeout =>
          rw [StreamPort.perform_readAllTimeout]
          exact Stream.readAllTimeout_reports port.fd buf timeout
  | poll timeout =>
      apply Routine.Loop.reports_once
      rw [StreamPort.poll_eq]
      exact fun ret _ => Routine.checks .rfl trivial fun _ => trivial
  | inputWaiting =>
      apply Routine.Loop.reports_once
      rw [StreamPort.inputWaiting_eq]
      exact fun answer _ => Stream.queueLength_checks answer
  | outputWaiting =>
      apply Routine.Loop.reports_once
      rw [StreamPort.outputWaiting_eq]
      exact fun answer _ => Stream.queueLength_checks answer
  | flush =>
      apply Routine.Loop.reports_once
      exact fun error _ => Routine.checks .rfl trivial fun _ => trivial

/-! ## All calls -/

/-- A constructor or a member function that makes requests. -/
inductive LibraryCall where
  | mmio (base size : Word)
  | serial (path : String) (arguments : Serial.Arguments)
  | characterDevice (path : String) (access : CharacterDevice.Access)
  | spi (path : String) (mode : Spi.Mode) (bit_order : Spi.BitOrder)
      (speed : BitVec 32) (bits_per_word extra_flags : Byte)
  | i2c (path : String)
  | gpioChip (path : String)
  | gpioPin (chip : GpioChip) (line : BitVec 32) (label : List Byte)
      (settings : GpioPin.Attributes)
  | onPin (call : GpioPin.Call)
  | onSpi (call : Spi.Call)
  | onI2C (objects : I2C.Messages) (addr : BitVec 16)
      (messages : List Nat) (overload : I2C.Overload)
  | onPort (port : StreamPort) (call : PortCall port)

namespace LibraryCall

/-- The object of the call; functions of ports are `const`. -/
abbrev Fields : LibraryCall → Type
  | .mmio _ _ => Mmio
  | .serial _ _ => Serial
  | .characterDevice _ _ => CharacterDevice
  | .spi _ _ _ _ _ _ => Spi
  | .i2c _ => I2C
  | .gpioChip _ => GpioChip
  | .gpioPin _ _ _ _ => GpioPin
  | .onPin _ => GpioPin
  | .onSpi _ => Spi
  | .onI2C _ _ _ _ => I2C
  | .onPort _ _ => Unit

abbrev Value : LibraryCall → Type
  | .onSpi call => call.Value
  | .onPort _ call => call.Value
  | _ => Unit

/-- The function that a call runs. -/
def perform (header : GpioHeader) :
    (call : LibraryCall) →
      Routine.Loop posix call.Fields Exception call.Value
  | .mmio base size => .once (Mmio.construct base size)
  | .serial path arguments => .once (arguments.construct path)
  | .characterDevice path access =>
      .once (CharacterDevice.construct path access)
  | .spi path mode bit_order speed bits_per_word extra_flags =>
      .once
        (Spi.construct path mode bit_order speed bits_per_word extra_flags)
  | .i2c path => .once (I2C.construct path)
  | .gpioChip path => .once (GpioChip.construct path)
  | .gpioPin chip line label settings =>
      .once
        (GpioPin.construct header chip line label settings.direction
          settings.edge settings.bias settings.drive settings.invert)
  | .onPin call => .once (call.perform header)
  | .onSpi call => call.perform
  | .onI2C objects addr messages overload =>
      .once (overload.transfer objects addr messages)
  | .onPort _ call => call.perform

/-- Why a call is refused before its first request, if it is. -/
def refusal (header : GpioHeader) :
    (call : LibraryCall) → call.Fields → Option Exception
  | .serial _ arguments, _ =>
      arguments.complaints.head?.map .invalidArgument
  | .characterDevice _ access, _ => access.refusal
  | .gpioPin _ _ _ settings, _ => settings.unsupported header
  | .onPin (.change change), pin => change.refusal header pin
  | _, _ => none

/-- Every call reports failures. -/
theorem reports (header : GpioHeader) (call : LibraryCall)
    (fields : call.Fields) :
    (call.perform header).Reports failures (call.refusal header fields)
      fields := by
  cases call with
  | mmio base size =>
      exact Routine.Loop.reports_once (Mmio.construct_heeds base size fields)
  | serial path arguments =>
      exact
        Routine.Loop.reports_once
          (Serial.construct_responds path arguments fields)
  | characterDevice path access =>
      exact
        Routine.Loop.reports_once
          (CharacterDevice.construct_responds path access fields)
  | spi path mode bit_order speed bits_per_word extra_flags =>
      exact
        Routine.Loop.reports_once
          (Spi.construct_heeds path mode bit_order speed bits_per_word
            extra_flags fields)
  | i2c path =>
      exact Routine.Loop.reports_once (I2C.construct_heeds path fields)
  | gpioChip path =>
      exact Routine.Loop.reports_once (GpioChip.construct_heeds path fields)
  | gpioPin chip line label settings =>
      exact
        Routine.Loop.reports_once
          (GpioPin.reopen_responds header settings
            (fields.unopened chip line label))
  | onPin call =>
      apply Routine.Loop.reports_once
      cases call with
      | change change => exact change.perform_responds header fields
      | get => exact (GpioPin.get_heeds fields).bind fun _ _ => trivial
      | set value => exact GpioPin.set_heeds value fields
  | onSpi call =>
      exact Routine.Loop.reports_once (call.method_heeds fields)
  | onI2C objects addr messages overload =>
      exact
        Routine.Loop.reports_once
          (I2C.transfer_heeds objects addr messages overload fields)
  | onPort port call => exact call.reports

end LibraryCall

/--
At every moment of every call of the library, nothing failed but the last
request, or before the last, which only gives back.  A call that ended threw
exactly if a request failed, unless it was refused; then it threw the reason
and made no request.
-/
theorem calls_tell_failures
    (header : GpioHeader) (call : LibraryCall) (fields : call.Fields)
    {point : (call.perform header).Point (List (Reply posix))}
    (reaches :
      (call.perform header).Reaches failures.journaling fields [] point) :
    failures.Orderly point.state ∧
      ∀ outcome, point.outcome = some outcome →
        failures.Answers (call.refusal header fields) outcome
          point.state :=
  call.reports header fields point reaches

/-- The requests of a constructor that could make no mapping. -/
def unmappedJournal : List (Reply posix) :=
  [⟨.sysconfPagesize, (4096 : Word)⟩,
    ⟨.open "/dev/mem" O_RDWR, (3 : Int)⟩,
    ⟨.mmap 4 3 0, mapFailed⟩,
    ⟨.close 3, (0 : Int)⟩]

/-- A constructor that makes no mapping closes the device again. -/
theorem unmapped_reached (header : GpioHeader) (raw : Mmio) :
    ((LibraryCall.mmio 0 4).perform header).Reaches failures.journaling
      raw []
      ⟨.raise badAddress, ⟨0, 0, 4, 4, mapFailed⟩, unmappedJournal⟩ := by
  have answers := @Routine.Loop.Advances.call posix Mmio Exception Unit
    (List (Reply posix)) failures.journaling
    (.once (Mmio.construct 0 4))
  refine .head (.steps .observe) ?_
  refine .head (.steps (@answers .sysconfPagesize _ (4096 : Word) _ _ _
    ⟨trivial, rfl⟩)) ?_
  refine .head (.steps .assign) ?_
  refine .head (.steps (@answers (.open _ _) _ (3 : Int) _ _ _
    ⟨trivial, rfl⟩)) ?_
  refine .head (.steps (@answers (.mmap _ _ _) _ mapFailed _ _ _
    ⟨trivial, rfl⟩)) ?_
  refine .head (.steps .assign) ?_
  refine .head (.steps (@answers (.close _) _ (0 : Int) _ _ _
    ⟨Int.le_refl 0, rfl⟩)) ?_
  exact .refl

/-- The constructor threw, and made a request that failed. -/
theorem unmapped_told :
    failures.Orderly unmappedJournal ∧
      ¬ failures.Sound unmappedJournal := by
  have told :=
    calls_tell_failures ⟨none, false⟩ (.mmio 0 4) ⟨0, 0, 0, 0, 0⟩
      (unmapped_reached ⟨none, false⟩ ⟨0, 0, 0, 0, 0⟩)
  exact ⟨told.1, told.2 (.threw badAddress) rfl⟩

end Periphery
