import Periphery.Gpio.LineHandle

/-!
# Sessions of setter calls

The public calls that change the configuration of a pin are five setters and
`reconfigure`.  Each setter does nothing when its argument equals the cached
attribute, and otherwise runs `reopen` as `reconfigure` always does.  Over any
session of these calls, an open handle matches the cached configuration; from
this follow what a call that returns and a call that throws leave behind.
-/

namespace Periphery.GpioPin

/-! ## One call -/

/-- The values passed in a call are those of a configuration. -/
def Change.Passed (settled : Attributes) : Change → Prop
  | .direction value => settled.direction = value
  | .edge value => settled.edge = value
  | .bias value => settled.bias = value
  | .drive value => settled.drive = value
  | .invert value => settled.invert = value
  | .reconfigure settings => settled = settings

theorem Change.passed_wanted (change : Change) (pin : GpioPin) :
    change.Passed (change.wanted pin) := by
  cases change <;> rfl

/-- A setter that takes its shortcut was passed the cached value. -/
theorem Change.passed_attributes
    {change : Change} {pin : GpioPin}
    (same : ¬ change.Differs pin) :
    change.Passed pin.attributes := by
  cases change with
  | direction value => exact Classical.not_not.mp same
  | edge value => exact Classical.not_not.mp same
  | bias value => exact Classical.not_not.mp same
  | drive value => exact Classical.not_not.mp same
  | invert value => exact Classical.not_not.mp same
  | reconfigure settings => exact absurd trivial same

/-- What a call does: `reopen`, or nothing if it takes the shortcut. -/
def Changes (header : GpioHeader) (change : Change)
    (pin : GpioPin) (lines : Lines)
    (outcome : Outcome Exception Unit) (pin' : GpioPin)
    (lines' : Lines) : Prop :=
  change.Differs pin ∧
      Reopens header (change.wanted pin) pin lines
        outcome pin' lines' ∨
    ¬ change.Differs pin ∧ outcome = .returned () ∧
      pin' = pin ∧ lines' = lines

theorem perform_ensures
    (header : GpioHeader) (change : Change)
    (pin : GpioPin) (lines : Lines) :
    (change.perform header).Ensures lineKernel
      (Changes header change pin lines) pin lines := by
  apply ensures_perform
  · intro differs
    apply (reopen_ensures header (change.wanted pin) pin lines).mono
    intro outcome pin' lines' reopened
    exact .inl ⟨differs, reopened⟩
  · intro same
    exact .inr ⟨same, rfl, rfl, rfl⟩

/-! ## The invariant -/

/--
A pin without a handle has no grant in force.  A pin with a handle has one
grant in force, for the request of its cached configuration.
-/
def Consistent (header : GpioHeader) (pin : GpioPin) (lines : Lines) :
    Prop :=
  pin.m_fd = -1 ∧ lines = noLines ∨
    0 ≤ pin.m_fd ∧ ∃ flags,
      pin.attributes.flags header = .ok flags ∧
        lines =
          Function.update noLines pin.m_fd
            (some (pin.grant pin.attributes flags))

theorem Consistent.released
    {header : GpioHeader} {pin : GpioPin} {lines : Lines}
    (consistent : Consistent header pin lines) :
    pin.released lines = noLines := by
  rcases consistent with ⟨closed, rfl⟩ | ⟨held, flags, _, rfl⟩
  · have negative : ¬ pin.m_fd ≥ 0 := by omega
    rw [GpioPin.released, if_neg negative]
  · rw [GpioPin.released, if_pos held, Function.update_idem]
    exact Function.update_eq_self _ _

theorem Consistent.withoutHandle
    {header : GpioHeader} {pin : GpioPin} {lines : Lines}
    (consistent : Consistent header pin lines) :
    pin.withoutHandle = { pin with m_fd := -1 } := by
  rcases consistent with ⟨closed, _⟩ | ⟨held, _⟩
  · have negative : ¬ pin.m_fd ≥ 0 := by omega
    rw [GpioPin.withoutHandle, if_neg negative, ← closed]
  · rw [GpioPin.withoutHandle, if_pos held]

/-- `reopen` keeps the invariant, whether it returns or throws. -/
theorem Consistent.reopened
    {header : GpioHeader} {wanted : Attributes}
    {pin pin' : GpioPin} {lines lines' : Lines}
    {outcome : Outcome Exception Unit}
    (consistent : Consistent header pin lines)
    (reopened :
      Reopens header wanted pin lines outcome pin' lines') :
    Consistent header pin' lines' := by
  cases outcome with
  | returned =>
      rcases reopened with ⟨flags, fd, supported, valid, _, rfl, rfl⟩
      exact
        .inr
          ⟨valid, flags, supported, by rw [consistent.released]; rfl⟩
  | threw error =>
      rcases reopened with ⟨_, rfl, rfl⟩ | ⟨_, _, rfl, rfl⟩
      · exact consistent
      · rw [consistent.released, consistent.withoutHandle]
        exact .inl ⟨rfl, rfl⟩

theorem Consistent.changed
    {header : GpioHeader} {change : Change}
    {pin pin' : GpioPin} {lines lines' : Lines}
    {outcome : Outcome Exception Unit}
    (consistent : Consistent header pin lines)
    (changed :
      Changes header change pin lines outcome pin' lines') :
    Consistent header pin' lines' := by
  rcases changed with ⟨_, reopened⟩ | ⟨_, _, rfl, rfl⟩
  · exact consistent.reopened reopened
  · exact consistent

theorem construct_ensures
    (header : GpioHeader) (chip : GpioChip) (line : BitVec 32)
    (label : List Byte) (settings : Attributes) (raw : GpioPin) :
    (construct header chip line label settings.direction
        settings.edge settings.bias settings.drive
        settings.invert).Ensures lineKernel
      (fun _ => Consistent header) raw noLines := by
  apply ensures_construct
  apply (reopen_ensures header settings _ noLines).mono
  intro outcome pin lines reopened
  exact Consistent.reopened (.inl ⟨rfl, rfl⟩) reopened

/-! ## Reachable states -/

/-- A state that some session on a newly constructed pin reaches. -/
inductive Reached (header : GpioHeader) (pin : GpioPin)
    (lines : Lines) : Prop where
  | intro {chip : GpioChip} {line : BitVec 32} {label : List Byte}
      {settings : Attributes} {raw pin₀ : GpioPin} {lines₀ : Lines}
      {history : List (Change × Outcome Exception Unit)}
      (constructed :
        (construct header chip line label settings.direction
            settings.edge settings.bias settings.drive
            settings.invert).Executes lineKernel
          raw noLines (.returned ()) pin₀ lines₀)
      (session :
        Routine.Session lineKernel (Change.perform header)
          pin₀ lines₀ history pin lines)

/-- The invariant holds at every point of every session. -/
theorem Reached.consistent
    {header : GpioHeader} {pin : GpioPin} {lines : Lines}
    (reached : Reached header pin lines) :
    Consistent header pin lines := by
  rcases reached with ⟨constructed, session⟩
  have initially :=
    (construct_ensures header _ _ _ _ _).of_executes constructed
  apply session.invariant (motive := fun _ => Consistent header)
    initially
  intro history pin lines change consistent
  apply (perform_ensures header change pin lines).mono
  intro outcome pin' lines' changed
  exact consistent.changed changed

/-! ## A pin whose request is refused -/

/-- A header with line drive but without line bias. -/
def driveHeader : GpioHeader where
  requestDisable := none
  openDrain := true

/-- A pin on the chip with descriptor 3, before its constructor ran. -/
def rawPin : GpioPin where
  m_chip := ⟨3⟩
  m_fd := 0
  m_line := 0
  m_label := []
  m_direction := .out
  m_edge := .none
  m_bias := .default
  m_drive := .default
  m_invert := .off

/-- An input on line 17. -/
def inputPin : GpioPin :=
  { rawPin with m_fd := 4, m_line := 17, m_direction := .input }

/-- The grants in force while `inputPin` is open. -/
def inputLines : Lines :=
  Function.update noLines 4
    (some
      (inputPin.grant inputPin.attributes GPIOHANDLE_REQUEST_INPUT))

theorem reached_inputPin :
    Reached driveHeader inputPin inputLines := by
  have constructed :
      (construct driveHeader ⟨3⟩ 17 [] .input .none .default .default
        .off).Executes lineKernel
        rawPin noLines (.returned ()) inputPin inputLines := by
    apply Routine.Executes.call ((0 : Int), (4 : Int))
      (.inr ⟨by decide, by decide, rfl, rfl⟩)
    exact ⟨rfl, rfl, rfl⟩
  exact
    @Reached.intro driveHeader inputPin inputLines ⟨3⟩ 17 []
      inputPin.attributes rawPin inputPin inputLines []
      constructed .start

/-- The kernel refuses to make the line an output. -/
theorem direction_inputPin_refused :
    (Change.perform driveHeader (.direction .high)).Executes lineKernel
      inputPin inputLines
      (.threw (.systemError 14 "Failed to open output line handle."))
      { inputPin with m_fd := -1 } noLines := by
  have closed : lineKernel inputLines (.close 4) (0 : Int) noLines :=
    ⟨rfl, reached_inputPin.consistent.released.symm⟩
  apply Routine.Executes.call (0 : Int) closed
  apply Routine.Executes.call ((-1 : Int), (0 : Int))
    (.inl ⟨by decide, rfl⟩)
  exact ⟨rfl, rfl, rfl⟩

/-! ## What an open handle says -/

/-- The request behind an open handle is that of the cached attributes. -/
theorem Consistent.request
    {header : GpioHeader} {pin : GpioPin} {lines : Lines}
    (consistent : Consistent header pin lines)
    (held : 0 ≤ pin.m_fd) :
    ∃ flags,
      pin.attributes.flags header = .ok flags ∧
        lines pin.m_fd = some (pin.grant pin.attributes flags) := by
  rcases consistent with ⟨closed, _⟩ | ⟨_, flags, supported, rfl⟩
  · omega
  · exact ⟨flags, supported, Function.update_self _ _ _⟩

theorem Changes.attributes_of_threw
    {header : GpioHeader} {change : Change}
    {pin pin' : GpioPin} {lines lines' : Lines} {error : Exception}
    (changed :
      Changes header change pin lines (.threw error) pin' lines') :
    pin'.attributes = pin.attributes := by
  rcases changed with ⟨_, ⟨_, rfl, _⟩ | ⟨_, _, rfl, _⟩⟩ |
    ⟨_, impossible, _⟩
  · rfl
  · exact attributes_withoutHandle pin
  · cases impossible

/--
In every reachable state, the request behind an open handle is determined by
the line, the label and the cached attributes; a call that throws leaves the
cached attributes; and two sessions that end with open handles and agree on
line, label and cached attributes end with the same request.
-/
theorem open_handle_matches_configuration
    {header : GpioHeader} {pin : GpioPin} {lines : Lines}
    (reached : Reached header pin lines) :
    (0 ≤ pin.m_fd →
      ∃ flags,
        pin.attributes.flags header = .ok flags ∧
          lines pin.m_fd =
            some
              ⟨pin.m_chip.m_fd,
                pin.attributes.request pin.m_line pin.m_label
                  flags⟩) ∧
    (∀ change error pin' lines',
      (Change.perform header change).Executes lineKernel
          pin lines (.threw error) pin' lines' →
        pin'.attributes = pin.attributes) ∧
    ∀ other otherLines,
      Reached header other otherLines →
      0 ≤ pin.m_fd → 0 ≤ other.m_fd →
      other.attributes = pin.attributes →
      other.m_line = pin.m_line → other.m_label = pin.m_label →
        (otherLines other.m_fd).map LineGrant.request =
          (lines pin.m_fd).map LineGrant.request := by
  refine ⟨reached.consistent.request, ?_, ?_⟩
  · intro change error pin' lines' executed
    exact
      ((perform_ensures header change pin lines).of_executes
        executed).attributes_of_threw
  · intro other otherLines otherReached held otherHeld sameAttributes
      sameLine sameLabel
    rcases reached.consistent.request held with ⟨flags, supported, granted⟩
    rcases otherReached.consistent.request otherHeld with
      ⟨otherFlags, otherSupported, otherGranted⟩
    have sameFlags : otherFlags = flags := by
      rw [sameAttributes, supported] at otherSupported
      exact (Except.ok.inj otherSupported).symm
    rw [granted, otherGranted]
    simp [grant, sameFlags, sameAttributes, sameLine, sameLabel]

/-- The open handle of `inputPin` is the one its attributes determine. -/
theorem inputPin_matches_configuration :
    ∃ flags,
      inputPin.attributes.flags driveHeader = .ok flags ∧
        inputLines 4 =
          some ⟨3, inputPin.attributes.request 17 [] flags⟩ :=
  (open_handle_matches_configuration reached_inputPin).1 (by decide)

/-! ## What a returning call leaves behind -/

/--
The pin has an open handle that was granted to it, and the request behind
the handle carries the values passed in `change`.
-/
def Working (header : GpioHeader) (change : Change) (pin : GpioPin)
    (lines : Lines) : Prop :=
  0 ≤ pin.m_fd ∧ ∃ settled flags,
    change.Passed settled ∧ settled.flags header = .ok flags ∧
      lines pin.m_fd =
        some
          ⟨pin.m_chip.m_fd,
            settled.request pin.m_line pin.m_label flags⟩

/-- A pin with a handle works as its cached attributes say. -/
theorem Consistent.working
    {header : GpioHeader} {change : Change} {pin : GpioPin}
    {lines : Lines}
    (consistent : Consistent header pin lines)
    (held : 0 ≤ pin.m_fd)
    (passed : change.Passed pin.attributes) :
    Working header change pin lines := by
  rcases consistent.request held with ⟨flags, supported, granted⟩
  exact ⟨held, pin.attributes, flags, passed, supported, granted⟩

/--
In every reachable state, a call that returns leaves a working pin exactly
when it gets past the shortcut of its setter or the pin had a handle.
-/
theorem working_iff_differs_or_held
    {header : GpioHeader} {pin pin' : GpioPin} {lines lines' : Lines}
    (reached : Reached header pin lines) {change : Change}
    (executed :
      (Change.perform header change).Executes lineKernel
        pin lines (.returned ()) pin' lines') :
    Working header change pin' lines' ↔
      change.Differs pin ∨ 0 ≤ pin.m_fd := by
  have changed :=
    (perform_ensures header change pin lines).of_executes executed
  have consistent := reached.consistent.changed changed
  rcases changed with ⟨differs, reopened⟩ | ⟨same, _, rfl, rfl⟩
  · rcases reopened with ⟨flags, fd, _, valid, _, rfl, _⟩
    refine iff_of_true ?_ (.inl differs)
    apply consistent.working valid
    rw [attributes_configured]
    exact change.passed_wanted pin
  · constructor
    · intro working
      exact .inr working.1
    · rintro (differs | held)
      · exact absurd differs same
      · exact consistent.working held (Change.passed_attributes same)

/-- Setting the cached direction of an open pin leaves it working. -/
theorem direction_inputPin_works :
    Working driveHeader (.direction .input) inputPin inputLines := by
  have executed :
      (Change.perform driveHeader (.direction .input)).Executes
        lineKernel inputPin inputLines (.returned ())
        inputPin inputLines :=
    ⟨rfl, rfl, rfl⟩
  exact
    (working_iff_differs_or_held reached_inputPin executed).mpr
      (.inr (by decide))

/--
After the kernel refused to make the line an output, setting the direction
back to the cached one returns and leaves a pin without a handle.
-/
theorem direction_refused_then_broken :
    Reached driveHeader { inputPin with m_fd := -1 } noLines ∧
      (Change.perform driveHeader (.direction .input)).Executes
        lineKernel { inputPin with m_fd := -1 } noLines
        (.returned ()) { inputPin with m_fd := -1 } noLines ∧
      ¬ Working driveHeader (.direction .input)
        { inputPin with m_fd := -1 } noLines := by
  refine ⟨?_, ⟨rfl, rfl, rfl⟩, fun working => ?_⟩
  · rcases reached_inputPin with ⟨constructed, session⟩
    exact ⟨constructed, session.call direction_inputPin_refused⟩
  · exact absurd working.1 (by decide)

/-! ## What a throwing call leaves behind -/

/--
In every reachable state, a call that throws leaves the cached attributes.
If the header lacks the configuration, it leaves everything; if the kernel
refused the request, the pin is otherwise unchanged but has no handle, and
no grant is in force.
-/
theorem threw_leaves_configuration
    {header : GpioHeader} {pin pin' : GpioPin} {lines lines' : Lines}
    (reached : Reached header pin lines) {change : Change}
    {error : Exception}
    (executed :
      (Change.perform header change).Executes lineKernel
        pin lines (.threw error) pin' lines') :
    pin'.attributes = pin.attributes ∧
      (∀ unsupported,
        (change.wanted pin).flags header = .error unsupported →
          pin' = pin ∧ lines' = lines) ∧
      ∀ flags, (change.wanted pin).flags header = .ok flags →
        pin' = { pin with m_fd := -1 } ∧ lines' = noLines := by
  have changed :=
    (perform_ensures header change pin lines).of_executes executed
  refine ⟨changed.attributes_of_threw, ?_⟩
  rcases changed with ⟨_, reopened⟩ | ⟨_, impossible, _⟩
  · rcases reopened with
      ⟨unsupported, rfl, rfl⟩ | ⟨flags, supported, rfl, rfl⟩
    · refine ⟨fun _ _ => ⟨rfl, rfl⟩, fun flags supported => ?_⟩
      cases unsupported.symm.trans supported
    · refine ⟨fun other unsupported => ?_, fun _ _ => ?_⟩
      · cases unsupported.symm.trans supported
      · exact
          ⟨reached.consistent.withoutHandle,
            reached.consistent.released⟩
  · cases impossible

/-- The refused output leaves the input attributes of `inputPin`. -/
theorem refused_leaves_configuration :
    ({ inputPin with m_fd := -1 } : GpioPin).attributes =
      inputPin.attributes :=
  (threw_leaves_configuration reached_inputPin
    direction_inputPin_refused).1

/-- The refused output takes the open handle and its request away. -/
theorem refused_drops_handle :
    Reached driveHeader inputPin inputLines ∧
      (Change.perform driveHeader (.direction .high)).Executes
        lineKernel inputPin inputLines
        (.threw
          (.systemError 14 "Failed to open output line handle."))
        { inputPin with m_fd := -1 } noLines ∧
      ({ inputPin with m_fd := -1 } : GpioPin).m_fd ≠
        inputPin.m_fd ∧
      noLines ≠ inputLines := by
  refine
    ⟨reached_inputPin, direction_inputPin_refused, by decide, ?_⟩
  intro same
  have atHandle := congrFun same 4
  simp [noLines, inputLines] at atHandle

end Periphery.GpioPin
