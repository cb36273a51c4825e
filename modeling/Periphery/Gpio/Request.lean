import Periphery.Gpio.Pin

/-!
# Requests of a pin

The configuration of a pin is five attributes, and together with the line and
the label they determine the request for its handle.  The rules here say, for
any kernel, what `reopen` and the calls that use it come down to: at most one
call of `close`, and then one request.
-/

namespace Periphery

/-- A request for a line, for a plain handle or for edge events. -/
inductive LineRequest where
  | handle (request : GpiohandleRequest)
  | event (request : GpioeventRequest)
deriving DecidableEq

namespace GpioPin

/-! ## Configurations -/

/-- The five attributes of a pin. -/
structure Attributes where
  direction : Direction
  edge : Edge
  bias : Bias
  drive : Drive
  invert : Invert
deriving DecidableEq, Repr

/-- The cached attributes of a pin. -/
def attributes (pin : GpioPin) : Attributes :=
  ⟨pin.m_direction, pin.m_edge, pin.m_bias, pin.m_drive, pin.m_invert⟩

/--
The flags for a configuration: the union of what its bias, drive, inversion
and direction stand for, unless the header lacks the bias or the drive.
-/
def Attributes.flags (header : GpioHeader) (wanted : Attributes) :
    Except Exception (BitVec 32) :=
  match wanted.bias.toRequest header, wanted.drive.toRequest header with
  | .ok bias, .ok drive =>
      .ok (bias ||| drive ||| wanted.invert.toRequest |||
        wanted.direction.toRequest)
  | .ok _, .error lacking => .error lacking
  | .error lacking, _ => .error lacking

/-- `reopen` joins the flags of the configuration that it is asked for. -/
theorem requestFlags_eq (header : GpioHeader) (wanted : Attributes) :
    requestFlags header wanted.direction wanted.bias wanted.drive
        wanted.invert =
      wanted.flags header := by
  unfold requestFlags Attributes.flags
  cases wanted.bias.toRequest header with
  | error lacking => rfl
  | ok bias =>
      cases wanted.drive.toRequest header with
      | error lacking => rfl
      | ok drive => rfl

/--
The request that a configuration determines: edge events for an input with
an edge, and a plain handle otherwise.  An output starts high exactly if one
of the direction and the inversion says so and not the other.
-/
def Attributes.request (wanted : Attributes) (line : BitVec 32)
    (label : List Byte) (flags : BitVec 32) : LineRequest :=
  if wanted.direction = .input ∧ wanted.edge ≠ .none then
    .event
      { lineoffset := line
        handleflags := flags
        eventflags := wanted.edge.toRequest
        consumer_label := strncpy label 31 }
  else
    .handle
      { lines := 1
        lineoffsets := oneLine line
        flags := flags
        default_values :=
          if wanted.direction = .input then
            Vector.replicate 64 0
          else
            oneLine
              (if Bool.xor (wanted.direction = .high)
                  (wanted.invert = .on) then 1 else 0)
        consumer_label :=
          strncpy label (if wanted.direction = .input then 32 else 31) }

/-- The pin with a new handle and the configuration behind it. -/
def configured (pin : GpioPin) (fd : Int) (wanted : Attributes) :
    GpioPin :=
  { pin with
    m_fd := fd
    m_direction := wanted.direction
    m_edge := wanted.edge
    m_bias := wanted.bias
    m_drive := wanted.drive
    m_invert := wanted.invert }

@[simp]
theorem attributes_configured
    (pin : GpioPin) (fd : Int) (wanted : Attributes) :
    (pin.configured fd wanted).attributes = wanted :=
  rfl

/-! ## Calls as data -/

/-- A call that may change the configuration. -/
inductive Change where
  | direction (value : Direction)
  | edge (value : Edge)
  | bias (value : Bias)
  | drive (value : Drive)
  | invert (value : Invert)
  | reconfigure (settings : Attributes)
deriving DecidableEq, Repr

/-- The member function that a call runs. -/
def Change.perform (header : GpioHeader) :
    Change → Method GpioPin Unit
  | .direction value => GpioPin.direction header value
  | .edge value => GpioPin.edge header value
  | .bias value => GpioPin.bias header value
  | .drive value => GpioPin.drive header value
  | .invert value => GpioPin.invert header value
  | .reconfigure settings =>
      GpioPin.reconfigure header settings.direction settings.edge
        settings.bias settings.drive settings.invert

/-- The configuration that a call asks for. -/
def Change.wanted (pin : GpioPin) : Change → Attributes
  | .direction value => { pin.attributes with direction := value }
  | .edge value => { pin.attributes with edge := value }
  | .bias value => { pin.attributes with bias := value }
  | .drive value => { pin.attributes with drive := value }
  | .invert value => { pin.attributes with invert := value }
  | .reconfigure settings => settings

/-- The call gets past the shortcut of its setter. -/
def Change.Differs (pin : GpioPin) : Change → Prop
  | .direction value => pin.m_direction ≠ value
  | .edge value => pin.m_edge ≠ value
  | .bias value => pin.m_bias ≠ value
  | .drive value => pin.m_drive ≠ value
  | .invert value => pin.m_invert ≠ value
  | .reconfigure .. => True

/-! ## Rules -/

section Rules

variable
    {State : Type} {kernel : Kernel posix State}
    {pin : GpioPin} {state : State}

/-- How a kernel may answer the request for a line, of either kind. -/
def AnswersLine (kernel : Kernel posix State) (state : State)
    (chip : Int) (request : LineRequest) (success fd : Int)
    (state' : State) : Prop :=
  match request with
  | .handle request =>
      kernel state (.ioctl chip (.gpioGetLinehandle request))
        (success, fd) state'
  | .event request =>
      kernel state (.ioctl chip (.gpioGetLineevent request))
        (success, fd) state'

theorem ensures_closeHandle
    {post : Outcome Exception Unit → GpioPin → State → Prop}
    (held : pin.m_fd ≥ 0 → ∀ success state',
      kernel state (.close pin.m_fd) success state' →
        (success < 0 → ∀ error, post (.threw error) pin state') ∧
          (¬ success < 0 →
            post (.returned ()) { pin with m_fd := -1 } state'))
    (free : ¬ pin.m_fd ≥ 0 → post (.returned ()) pin state) :
    closeHandle.Ensures kernel post pin state := by
  simp only [closeHandle, sysClose, Routine.ensures_bind,
    Routine.ensures_self, Routine.ensures_call, Routine.ensures_done,
    Routine.ensures_ite, Routine.ensures_raise,
    Routine.ensures_update, Routine.ensures_pure,
    Routine.afterwards_returned]
  refine ⟨fun holds success state' closed => ?_, free⟩
  exact
    ⟨fun failed => (held holds success state' closed).1 failed _,
      (held holds success state' closed).2⟩

section Opening

variable
    {post : Outcome Exception Int → GpioPin → State → Prop}
    {wanted : Attributes} {flags : BitVec 32}

theorem ensures_openInput
    (input : wanted.direction = .input) (edgeless : wanted.edge = .none)
    (answered : ∀ success fd state',
      AnswersLine kernel state pin.m_chip.m_fd
          (wanted.request pin.m_line pin.m_label flags)
          success fd state' →
        (success < 0 → ∀ error, post (.threw error) pin state') ∧
          (¬ success < 0 → post (.returned fd) pin state')) :
    (openInput flags).Ensures kernel post pin state := by
  simp only [openInput, sysIoctl, Routine.ensures_bind,
    Routine.ensures_self, Routine.ensures_call, Routine.ensures_done,
    Routine.ensures_ite, Routine.ensures_raise, Routine.ensures_pure,
    Routine.afterwards_returned]
  have plain :
      ¬ (wanted.direction = .input ∧ wanted.edge ≠ .none) :=
    fun edged => edged.2 edgeless
  simp only [AnswersLine, Attributes.request, if_neg plain,
    if_pos input] at answered
  rintro ⟨success, fd⟩ state' replied
  exact
    ⟨fun refused => (answered success fd state' replied).1 refused _,
      (answered success fd state' replied).2⟩

theorem ensures_openEvent
    (edged : wanted.direction = .input ∧ wanted.edge ≠ .none)
    (answered : ∀ success fd state',
      AnswersLine kernel state pin.m_chip.m_fd
          (wanted.request pin.m_line pin.m_label flags)
          success fd state' →
        (success < 0 → ∀ error, post (.threw error) pin state') ∧
          (¬ success < 0 → post (.returned fd) pin state')) :
    (openEvent flags wanted.edge).Ensures kernel post pin state := by
  simp only [openEvent, sysIoctl, Routine.ensures_bind,
    Routine.ensures_self, Routine.ensures_call, Routine.ensures_done,
    Routine.ensures_ite, Routine.ensures_raise, Routine.ensures_pure,
    Routine.afterwards_returned]
  simp only [AnswersLine, Attributes.request, if_pos edged] at answered
  rintro ⟨success, fd⟩ state' replied
  exact
    ⟨fun refused => (answered success fd state' replied).1 refused _,
      (answered success fd state' replied).2⟩

theorem ensures_openOutput
    (output : wanted.direction ≠ .input)
    (answered : ∀ success fd state',
      AnswersLine kernel state pin.m_chip.m_fd
          (wanted.request pin.m_line pin.m_label flags)
          success fd state' →
        (success < 0 → ∀ error, post (.threw error) pin state') ∧
          (¬ success < 0 → post (.returned fd) pin state')) :
    (openOutput flags wanted.direction wanted.invert).Ensures kernel
      post pin state := by
  simp only [openOutput, sysIoctl, Routine.ensures_bind,
    Routine.ensures_self, Routine.ensures_call, Routine.ensures_done,
    Routine.ensures_ite, Routine.ensures_raise, Routine.ensures_pure,
    Routine.afterwards_returned]
  have plain :
      ¬ (wanted.direction = .input ∧ wanted.edge ≠ .none) :=
    fun edged => output edged.1
  simp only [AnswersLine, Attributes.request, if_neg plain,
    if_neg output] at answered
  rintro ⟨success, fd⟩ state' replied
  exact
    ⟨fun refused => (answered success fd state' replied).1 refused _,
      (answered success fd state' replied).2⟩

/-- Each branch of `reopen` makes the request of the configuration. -/
theorem ensures_openLine
    (answered : ∀ success fd state',
      AnswersLine kernel state pin.m_chip.m_fd
          (wanted.request pin.m_line pin.m_label flags)
          success fd state' →
        (success < 0 → ∀ error, post (.threw error) pin state') ∧
          (¬ success < 0 → post (.returned fd) pin state')) :
    (openLine flags wanted.direction wanted.edge
        wanted.invert).Ensures kernel post pin state := by
  unfold openLine
  split_ifs with plain edged
  · exact ensures_openInput plain.1 plain.2 answered
  · exact ensures_openEvent edged answered
  · apply ensures_openOutput _ answered
    intro input
    by_cases edgeless : wanted.edge = .none
    · exact plain ⟨input, edgeless⟩
    · exact edged ⟨input, edgeless⟩

end Opening

variable {post : Outcome Exception Unit → GpioPin → State → Prop}

/-- What is left to show of `reopen` once the handle is given up. -/
def AfterClose (kernel : Kernel posix State) (wanted : Attributes)
    (flags : BitVec 32)
    (post : Outcome Exception Unit → GpioPin → State → Prop) :
    Outcome Exception Unit → GpioPin → State → Prop
  | .returned _, pin, state =>
      ∀ success fd state',
        AnswersLine kernel state pin.m_chip.m_fd
            (wanted.request pin.m_line pin.m_label flags)
            success fd state' →
          (success < 0 → ∀ error, post (.threw error) pin state') ∧
            (¬ success < 0 →
              post (.returned ()) (pin.configured fd wanted) state')
  | .threw error, pin, state => post (.threw error) pin state

theorem ensures_reopen
    {header : GpioHeader} {wanted : Attributes}
    (unsupported : ∀ error,
      wanted.flags header = .error error →
        post (.threw error) pin state)
    (supported : ∀ flags,
      wanted.flags header = .ok flags →
        closeHandle.Ensures kernel
          (AfterClose kernel wanted flags post) pin state) :
    (reopen header wanted.direction wanted.edge wanted.bias
        wanted.drive wanted.invert).Ensures kernel post pin state := by
  rw [reopen, requestFlags_eq, Routine.ensures_bind,
    Routine.ensures_ofExcept]
  refine ⟨fun flags agreed => ?_, unsupported⟩
  apply (supported flags agreed).bind
  · rintro ⟨⟩ pin' state' answered
    rw [Routine.ensures_bind]
    exact ensures_openLine answered
  · intro error pin' state' reached
    exact reached

/-- A new pin, as the constructor hands it to `reopen`. -/
def unopened (raw : GpioPin) (chip : GpioChip) (line : BitVec 32)
    (label : List Byte) : GpioPin :=
  { raw with
    m_chip := chip
    m_fd := -1
    m_line := line
    m_label := label }

section Constructing

variable
    {header : GpioHeader} {chip : GpioChip} {line : BitVec 32}
    {label : List Byte} {settings : Attributes} {raw : GpioPin}

theorem ensures_construct
    (reopened :
      (reopen header settings.direction settings.edge settings.bias
          settings.drive settings.invert).Ensures kernel post
        (raw.unopened chip line label) state) :
    (construct header chip line label settings.direction
        settings.edge settings.bias settings.drive
        settings.invert).Ensures kernel post raw state := by
  simp only [construct, Routine.ensures_bind, Routine.ensures_self,
    Routine.ensures_update, Routine.afterwards_returned]
  exact reopened

/-- A new pin has no handle to give up. -/
theorem ensures_construct_unheld
    (unsupported : ∀ error,
      settings.flags header = .error error →
        post (.threw error) (raw.unopened chip line label) state)
    (supported : ∀ flags,
      settings.flags header = .ok flags →
        AfterClose kernel settings flags post (.returned ())
          (raw.unopened chip line label) state) :
    (construct header chip line label settings.direction
        settings.edge settings.bias settings.drive
        settings.invert).Ensures kernel post raw state := by
  apply ensures_construct
  apply ensures_reopen unsupported
  intro flags agreed
  apply ensures_closeHandle
  · have unheld : ¬ (-1 : Int) ≥ 0 := by decide
    exact fun held => absurd held unheld
  · exact fun _ => supported flags agreed

end Constructing

/-- The body shared by the five setters. -/
theorem ensures_setter
    {header : GpioHeader} (change : Change)
    {_ : Decidable (change.Differs pin)}
    (differs : change.Differs pin →
      (reopen header (change.wanted pin).direction
          (change.wanted pin).edge (change.wanted pin).bias
          (change.wanted pin).drive (change.wanted pin).invert).Ensures
        kernel post pin state)
    (same : ¬ change.Differs pin → post (.returned ()) pin state) :
    (if change.Differs pin then
        reopen header (change.wanted pin).direction
          (change.wanted pin).edge (change.wanted pin).bias
          (change.wanted pin).drive (change.wanted pin).invert
      else pure ()).Ensures kernel post pin state := by
  rw [Routine.ensures_ite]
  exact ⟨differs, same⟩

/-- A call runs `reopen`, unless it takes the shortcut of its setter. -/
theorem ensures_perform
    {header : GpioHeader} {change : Change}
    (differs : change.Differs pin →
      (reopen header (change.wanted pin).direction
          (change.wanted pin).edge (change.wanted pin).bias
          (change.wanted pin).drive (change.wanted pin).invert).Ensures
        kernel post pin state)
    (same : ¬ change.Differs pin → post (.returned ()) pin state) :
    (change.perform header).Ensures kernel post pin state := by
  cases change with
  | direction value => exact ensures_setter (.direction value) differs same
  | edge value => exact ensures_setter (.edge value) differs same
  | bias value => exact ensures_setter (.bias value) differs same
  | drive value => exact ensures_setter (.drive value) differs same
  | invert value => exact ensures_setter (.invert value) differs same
  | reconfigure settings => exact differs trivial

end Rules

end GpioPin

end Periphery
