import Periphery.Gpio.Call
import Periphery.Gpio.Configuration

/-!
# The level of an output

A request for an output drives the line, and so does every `set`.  The
direction of a pin names a level, but it is cached when the line is requested
and `set` does not change it.  Selecting the cached direction again makes no
request, so it drives nothing.

Every call of the kernel succeeds here.
-/

namespace Periphery

/-- A flag is among the flags of a request. -/
def hasFlag (flags flag : BitVec 32) : Bool := flags &&& flag ≠ 0

@[simp]
theorem hasFlag_or (first second flag : BitVec 32) :
    hasFlag (first ||| second) flag =
      (hasFlag first flag || hasFlag second flag) := by
  unfold hasFlag
  rw [BitVec.and_or_distrib_right, Bool.eq_iff_iff]
  simp only [decide_eq_true_eq, Bool.or_eq_true, ne_eq]
  rw [← not_and_or]
  exact not_congr BitVec.or_eq_zero_iff

/-- The flag that disables the bias does not make a line active low. -/
def GpioHeader.DisableApart (header : GpioHeader) : Prop :=
  ∀ flag, header.requestDisable = some flag →
    hasFlag flag GPIOHANDLE_REQUEST_ACTIVE_LOW = false

/-! ## The line -/

/-- A line; a level is high if it is `true`. -/
structure GpioLine where
  /-- The line was requested as active low. -/
  activeLow : Bool
  /-- The physical level. -/
  level : Bool
  /-- The logical value of the last `set` since the line was requested. -/
  lastSet : Option Bool
deriving DecidableEq, Repr

/-- A request for the line.  The level of an input is not determined. -/
def GpioLine.Requested (line : GpioLine) (flags : BitVec 32)
    (value : Byte) : Prop :=
  line.activeLow = hasFlag flags GPIOHANDLE_REQUEST_ACTIVE_LOW ∧
    line.lastSet = none ∧
    (hasFlag flags GPIOHANDLE_REQUEST_OUTPUT = true →
      line.level = Bool.xor (value ≠ 0) line.activeLow)

/-- The line after a logical value was set. -/
def GpioLine.set (line : GpioLine) (value : Bool) : GpioLine :=
  { line with
    level := Bool.xor value line.activeLow
    lastSet := some value }

/-- A request has room for 64 lines; the pin uses the first. -/
theorem first_lt : 0 < 64 := by decide

/-- The flags of a request of either kind. -/
def LineRequest.flags : LineRequest → BitVec 32
  | .handle request => request.flags
  | .event request => request.handleflags

/-- The logical value with which a request starts an output. -/
def LineRequest.value : LineRequest → Byte
  | .handle request => request.default_values.get ⟨0, first_lt⟩
  | .event _ => 0

/-- The line behind a pin, with all calls succeeding. -/
def drivingKernel : Kernel posix GpioLine :=
  fun line request answer line' =>
    match request, answer with
    | .close _, success =>
        success = 0 ∧ ∃ level, line' = { line with level := level }
    | .ioctl _ (.gpioGetLinehandle request), (success, fd) =>
        success = 0 ∧ 0 ≤ fd ∧
          line'.Requested request.flags
            (request.default_values.get ⟨0, first_lt⟩)
    | .ioctl _ (.gpioGetLineevent request), (success, fd) =>
        success = 0 ∧ 0 ≤ fd ∧ line'.Requested request.handleflags 0
    | .ioctl _ .gpiohandleGetLineValues, (success, _) =>
        success = 0 ∧ line' = line
    | .ioctl _ (.gpiohandleSetLineValues value), success =>
        success = 0 ∧ line' = line.set (value ≠ 0)
    | _, _ => line' = line

namespace GpioPin

/-! ## Requests -/

/-- The level that a direction selects. -/
def Direction.level : Direction → Option Bool
  | .input => none
  | .out => none
  | .low => some false
  | .high => some true

/-- The flags of a request are those of its four attributes. -/
theorem Attributes.flags_eq
    {header : GpioHeader} {wanted : Attributes} {flags : BitVec 32}
    (supported : wanted.flags header = .ok flags) :
    ∃ biasFlags driveFlags,
      wanted.bias.toRequest header = .ok biasFlags ∧
        wanted.drive.toRequest header = .ok driveFlags ∧
        flags =
          biasFlags ||| driveFlags ||| wanted.invert.toRequest |||
            wanted.direction.toRequest := by
  rw [Attributes.flags] at supported
  cases biased : wanted.bias.toRequest header with
  | error error =>
      rw [biased] at supported
      cases supported
  | ok biasFlags =>
      cases driven : wanted.drive.toRequest header with
      | error error =>
          rw [biased, driven] at supported
          cases supported
      | ok driveFlags =>
          rw [biased, driven] at supported
          cases supported
          exact ⟨biasFlags, driveFlags, rfl, rfl, rfl⟩

theorem Bias.not_activeLow
    {header : GpioHeader} (apart : header.DisableApart) {bias : Bias}
    {flags : BitVec 32} (supported : bias.toRequest header = .ok flags) :
    hasFlag flags GPIOHANDLE_REQUEST_ACTIVE_LOW = false := by
  unfold Bias.toRequest at supported
  split at supported
  · rename_i requestDisable defined
    cases bias <;> cases supported
    · rfl
    · rfl
    · rfl
    · exact apart _ defined
  · split at supported
    · cases supported
    · cases supported
      rfl

theorem Drive.not_activeLow
    {header : GpioHeader} {drive : Drive} {flags : BitVec 32}
    (supported : drive.toRequest header = .ok flags) :
    hasFlag flags GPIOHANDLE_REQUEST_ACTIVE_LOW = false := by
  unfold Drive.toRequest at supported
  split at supported
  · cases drive <;> cases supported <;> rfl
  · split at supported
    · cases supported
    · cases supported
      rfl

/-- A line is requested as active low exactly if it is inverted. -/
theorem Attributes.hasFlag_activeLow
    {header : GpioHeader} (apart : header.DisableApart)
    {wanted : Attributes} {flags : BitVec 32}
    (supported : wanted.flags header = .ok flags) :
    hasFlag flags GPIOHANDLE_REQUEST_ACTIVE_LOW =
      decide (wanted.invert = .on) := by
  rcases Attributes.flags_eq supported with
    ⟨biasFlags, driveFlags, biased, driven, rfl⟩
  rw [hasFlag_or, hasFlag_or, hasFlag_or, Bias.not_activeLow apart biased,
    Drive.not_activeLow driven]
  cases wanted.invert <;> cases wanted.direction <;> rfl

theorem Attributes.hasFlag_output
    {header : GpioHeader} {wanted : Attributes} {flags : BitVec 32}
    (supported : wanted.flags header = .ok flags)
    (output : wanted.direction ≠ .input) :
    hasFlag flags GPIOHANDLE_REQUEST_OUTPUT = true := by
  rcases Attributes.flags_eq supported with ⟨_, _, _, _, rfl⟩
  rw [hasFlag_or]
  cases direction : wanted.direction with
  | input => exact absurd direction output
  | out => exact Bool.or_true _
  | low => exact Bool.or_true _
  | high => exact Bool.or_true _

/-! ## The invariant -/

/--
The line is active low exactly if the pin is inverted.  It has the level that
the pin's direction names, until a value is set; then it has that.
-/
structure Follows (pin : GpioPin) (line : GpioLine) : Prop where
  activeLow : line.activeLow = decide (pin.m_invert = .on)
  requested : line.lastSet = none → ∀ level,
    pin.m_direction.level = some level → line.level = level
  driven : ∀ value, line.lastSet = some value →
    line.level = Bool.xor value line.activeLow

/--
The same for outputs only, with the level that a request drives for each of
their directions.
-/
structure Drives (pin : GpioPin) (line : GpioLine) : Prop where
  activeLow : line.activeLow = decide (pin.m_invert = .on)
  initial : line.lastSet = none → pin.m_direction ≠ .input →
    line.level = decide (pin.m_direction = .high)
  driven : ∀ value, line.lastSet = some value →
    line.level = Bool.xor value line.activeLow

theorem Drives.follows
    {pin : GpioPin} {line : GpioLine} (drives : Drives pin line) :
    Follows pin line where
  activeLow := drives.activeLow
  requested fresh level named := by
    cases direction : pin.m_direction <;> rw [direction] at named <;>
      cases named
    · rw [drives.initial fresh (by rw [direction]; rintro ⟨⟩), direction]
      rfl
    · rw [drives.initial fresh (by rw [direction]; rintro ⟨⟩), direction]
      rfl
  driven := drives.driven

theorem Drives.set
    {pin : GpioPin} {line : GpioLine} (drives : Drives pin line)
    (value : Bool) :
    Drives pin (line.set value) where
  activeLow := drives.activeLow
  initial := by rintro ⟨⟩
  driven := by
    rintro _ ⟨⟩
    rfl

/-- The flags of a request are those of its configuration. -/
theorem Attributes.flags_request
    (wanted : Attributes) (line : BitVec 32) (label : List Byte)
    (flags : BitVec 32) :
    (wanted.request line label flags).flags = flags := by
  unfold Attributes.request
  split_ifs <;> rfl

/-- The logical value with which an output starts. -/
theorem Attributes.value_request
    {wanted : Attributes} (output : wanted.direction ≠ .input)
    (line : BitVec 32) (label : List Byte) (flags : BitVec 32) :
    decide ((wanted.request line label flags).value ≠ 0) =
      Bool.xor (wanted.direction = .high) (wanted.invert = .on) := by
  have plain :
      ¬ (wanted.direction = .input ∧ wanted.edge ≠ .none) :=
    fun edged => output edged.1
  rw [Attributes.request, if_neg plain]
  simp only [LineRequest.value, if_neg output]
  cases Bool.xor (decide (wanted.direction = .high))
    (decide (wanted.invert = .on)) <;> rfl

/-- A line that was requested for a configuration. -/
theorem Drives.of_requested
    {header : GpioHeader} (apart : header.DisableApart)
    {wanted : Attributes} {flags : BitVec 32}
    (supported : wanted.flags header = .ok flags)
    {pin : GpioPin} {line : GpioLine}
    (requested :
      line.Requested
        (wanted.request pin.m_line pin.m_label flags).flags
        (wanted.request pin.m_line pin.m_label flags).value)
    (fd : Int) :
    Drives (pin.configured fd wanted) line := by
  rcases requested with ⟨activeLow, fresh, drives⟩
  rw [Attributes.flags_request] at activeLow drives
  rw [Attributes.hasFlag_activeLow apart supported] at activeLow
  refine ⟨activeLow, fun _ output => ?_, fun value driven => ?_⟩
  · change wanted.direction ≠ .input at output
    rw [drives (Attributes.hasFlag_output supported output),
      Attributes.value_request output, activeLow, Bool.xor_assoc,
      Bool.xor_self, Bool.xor_false]
    rfl
  · rw [fresh] at driven
    cases driven

/-- A request for the line, of either kind, is granted. -/
theorem answersLine_drivingKernel
    {line line' : GpioLine} {chip success fd : Int}
    {request : LineRequest} :
    AnswersLine drivingKernel line chip request success fd line' ↔
      success = 0 ∧ 0 ≤ fd ∧
        line'.Requested request.flags request.value := by
  cases request <;> rfl

/-- The line follows the pin behind its new request. -/
theorem afterClose_follows
    {header : GpioHeader} (apart : header.DisableApart)
    {wanted : Attributes} {flags : BitVec 32}
    (supported : wanted.flags header = .ok flags)
    {pin : GpioPin} {line : GpioLine}
    {post : Outcome Exception Unit → GpioPin → GpioLine → Prop}
    (granted : ∀ fd line', line'.lastSet = none →
      Follows (pin.configured fd wanted) line' →
        post (.returned ()) (pin.configured fd wanted) line') :
    AfterClose drivingKernel wanted flags post (.returned ()) pin
      line := by
  intro success fd line' answered
  rcases answersLine_drivingKernel.mp answered with ⟨rfl, _, requested⟩
  refine ⟨fun failed => absurd failed (Int.lt_irrefl 0), fun _ => ?_⟩
  exact
    granted fd line' requested.2.1
      (Drives.of_requested apart supported requested fd).follows

/-! ## Calls -/

/-- What a call that may change the configuration does to the line. -/
def Updates (change : Change) (pin : GpioPin) (line : GpioLine)
    (outcome : Outcome Exception Unit) (pin' : GpioPin)
    (line' : GpioLine) : Prop :=
  pin'.attributes = change.wanted pin ∧ change.Differs pin ∧
      line'.lastSet = none ∧ Follows pin' line' ∨
    (outcome = .returned () → ¬ change.Differs pin) ∧
      pin' = pin ∧ line' = line

theorem reopen_follows
    {header : GpioHeader} (apart : header.DisableApart)
    (wanted : Attributes) (pin : GpioPin) (line : GpioLine) :
    (reopen header wanted.direction wanted.edge wanted.bias
        wanted.drive wanted.invert).Ensures drivingKernel
      (fun outcome pin' line' =>
        match outcome with
        | .returned _ =>
            pin'.attributes = wanted ∧ line'.lastSet = none ∧
              Follows pin' line'
        | .threw _ => pin' = pin ∧ line' = line)
      pin line := by
  apply ensures_reopen
  · exact fun _ _ => ⟨rfl, rfl⟩
  · intro flags supported
    apply ensures_closeHandle
    · rintro _ success line' ⟨rfl, _⟩
      refine ⟨fun failed => absurd failed (Int.lt_irrefl 0), fun _ => ?_⟩
      exact
        afterClose_follows apart supported fun _ _ fresh follows =>
          ⟨rfl, fresh, follows⟩
    · intro _
      exact
        afterClose_follows apart supported fun _ _ fresh follows =>
          ⟨rfl, fresh, follows⟩

theorem perform_updates
    {header : GpioHeader} (apart : header.DisableApart)
    (change : Change) (pin : GpioPin) (line : GpioLine) :
    (change.perform header).Ensures drivingKernel
      (Updates change pin line) pin line := by
  apply ensures_perform
  · intro differs
    apply (reopen_follows apart (change.wanted pin) pin line).mono
    rintro (_ | error) pin' line' reopened
    · exact .inl ⟨reopened.1, differs, reopened.2⟩
    · exact .inr ⟨by rintro ⟨⟩, reopened⟩
  · intro same
    exact .inr ⟨fun _ => same, rfl, rfl⟩

/-- Every call keeps the invariant. -/
theorem Follows.perform
    {header : GpioHeader} (apart : header.DisableApart)
    {pin : GpioPin} {line : GpioLine} (follows : Follows pin line)
    (call : Call) :
    (call.perform header).Ensures drivingKernel (fun _ => Follows)
      pin line := by
  cases call with
  | change update =>
      apply (perform_updates apart update pin line).mono
      rintro outcome pin' line' (⟨_, _, _, follows'⟩ | ⟨_, rfl, rfl⟩)
      · exact follows'
      · exact follows
  | get =>
      apply ensures_get
      rintro success value _ ⟨rfl, rfl⟩
      exact ⟨fun _ _ => follows, fun _ => follows⟩
  | set value =>
      apply ensures_set
      rintro success _ ⟨rfl, rfl⟩
      have after :
          Follows pin
            (line.set
              ((if value = .high then (1 : Byte) else 0) ≠ 0)) :=
        ⟨follows.activeLow, by rintro ⟨⟩, by rintro _ ⟨⟩; rfl⟩
      exact ⟨fun _ _ => after, fun _ => after⟩

/-- A new pin has the level that its direction names. -/
theorem construct_follows
    {header : GpioHeader} (apart : header.DisableApart)
    (chip : GpioChip) (line : BitVec 32) (label : List Byte)
    (settings : Attributes) (raw : GpioPin) (before : GpioLine) :
    (construct header chip line label settings.direction
        settings.edge settings.bias settings.drive
        settings.invert).Ensures drivingKernel
      (fun outcome pin after =>
        outcome = .returned () → Follows pin after)
      raw before := by
  apply ensures_construct
  apply (reopen_follows apart settings _ before).mono
  rintro (_ | error) pin after reopened
  · exact fun _ => reopened.2.2
  · rintro ⟨⟩

/-! ## Selected levels -/

/-- The level that a call selects. -/
def Change.level : Change → Option Bool
  | .direction value => value.level
  | .edge _ => none
  | .bias _ => none
  | .drive _ => none
  | .invert _ => none
  | .reconfigure settings => settings.direction.level

/-- The direction that a call asks for names the level it selects. -/
theorem Change.wanted_level
    {change : Change} {level : Bool} (selects : change.level = some level)
    (pin : GpioPin) :
    (change.wanted pin).direction.level = some level := by
  cases change with
  | direction value => exact selects
  | reconfigure settings => exact selects
  | edge value => cases selects
  | bias value => cases selects
  | drive value => cases selects
  | invert value => cases selects

/-- A call that takes its shortcut selects the level of the cached direction. -/
theorem Change.level_of_same
    {change : Change} {level : Bool} (selects : change.level = some level)
    {pin : GpioPin} (same : ¬ change.Differs pin) :
    pin.m_direction.level = some level := by
  cases change with
  | direction value =>
      rw [Classical.not_not.mp same]
      exact selects
  | reconfigure settings => exact absurd trivial same
  | edge value => cases selects
  | bias value => cases selects
  | drive value => cases selects
  | invert value => cases selects

/--
For every constructor and every later session of calls, with every kernel
call succeeding: after a returning call that selects a level the line has it,
exactly if the call differs from the cached direction, or no value has been
set since the line was requested, or the last such value has that level.
-/
theorem level_selected_iff
    {header : GpioHeader} (apart : header.DisableApart)
    {chip : GpioChip} {number : BitVec 32} {label : List Byte}
    {settings : Attributes} {raw pin₀ pin pin' : GpioPin}
    {before line₀ line line' : GpioLine}
    {history : List (Call × Outcome Exception Unit)}
    (constructed :
      (construct header chip number label settings.direction
          settings.edge settings.bias settings.drive
          settings.invert).Executes drivingKernel
        raw before (.returned ()) pin₀ line₀)
    (session :
      Routine.Session drivingKernel (Call.perform header)
        pin₀ line₀ history pin line)
    {change : Change} {level : Bool}
    (selects : change.level = some level)
    (executed :
      (change.perform header).Executes drivingKernel
        pin line (.returned ()) pin' line') :
    line'.level = level ↔
      change.Differs pin ∨
        ∀ value, line.lastSet = some value →
          Bool.xor value (pin.m_invert = .on) = level := by
  have follows : Follows pin line := by
    apply session.invariant (motive := fun _ => Follows)
    · exact
        (construct_follows apart chip number label settings raw
          before).of_executes constructed rfl
    · intro history pin line call follows
      exact follows.perform apart call
  rcases (perform_updates apart change pin line).of_executes executed with
    ⟨attributes, differs, fresh, follows'⟩ | ⟨same, rfl, rfl⟩
  · refine iff_of_true (follows'.requested fresh level ?_) (.inl differs)
    have named := change.wanted_level selects pin
    rw [← attributes] at named
    exact named
  · have named := Change.level_of_same selects (same rfl)
    rw [or_iff_right (same rfl), ← follows.activeLow]
    cases lastSet : line'.lastSet with
    | none =>
        exact
          iff_of_true (follows.requested lastSet level named)
            (by rintro _ ⟨⟩)
    | some value =>
        rw [follows.driven value lastSet]
        exact ⟨by rintro held _ ⟨⟩; exact held, fun last => last value rfl⟩

/-! ## A pin that is low -/

/-- An output on line 17 that starts low. -/
def lowPin : GpioPin :=
  { rawPin with m_fd := 4, m_line := 17, m_direction := .low }

theorem driveHeader_apart : driveHeader.DisableApart := by
  rintro flag ⟨⟩

/-- A line whose level is `level` since it was requested. -/
def requestedLine (level : Bool) : GpioLine := ⟨false, level, none⟩

theorem construct_lowPin :
    (construct driveHeader ⟨3⟩ 17 [] .low .none .default .default
        .off).Executes drivingKernel
      rawPin (requestedLine true) (.returned ()) lowPin
      (requestedLine false) := by
  refine Routine.Executes.call ((0 : Int), (4 : Int)) ?_ ⟨rfl, rfl, rfl⟩
  exact ⟨rfl, by decide, rfl, rfl, fun _ => rfl⟩

/-- Selecting high on such a pin drives its line high. -/
theorem lowPin_driven_high :
    (Change.perform driveHeader (.direction .high)).Executes
        drivingKernel lowPin (requestedLine false) (.returned ())
        { lowPin with m_fd := 5, m_direction := .high }
        (requestedLine true) ∧
      (requestedLine true).level = true := by
  have executed :
      (Change.perform driveHeader (.direction .high)).Executes
        drivingKernel lowPin (requestedLine false) (.returned ())
        { lowPin with m_fd := 5, m_direction := .high }
        (requestedLine true) := by
    apply Routine.Executes.call (0 : Int) ⟨rfl, false, rfl⟩
    refine Routine.Executes.call ((0 : Int), (5 : Int)) ?_ ⟨rfl, rfl, rfl⟩
    exact ⟨rfl, by decide, rfl, rfl, fun _ => rfl⟩
  refine ⟨executed, ?_⟩
  apply
    (@level_selected_iff driveHeader driveHeader_apart ⟨3⟩ 17 []
      lowPin.attributes rawPin lowPin lowPin
      { lowPin with m_fd := 5, m_direction := .high }
      (requestedLine true) (requestedLine false) (requestedLine false)
      (requestedLine true) [] construct_lowPin .start
      (.direction .high) true rfl executed).mpr
  exact .inl (by rintro ⟨⟩)

/--
After the line of such a pin was set high, selecting low returns and leaves
the line high.
-/
theorem lowPin_stays_high :
    (construct driveHeader ⟨3⟩ 17 [] .low .none .default .default
        .off).Executes drivingKernel
        rawPin (requestedLine true) (.returned ()) lowPin
        (requestedLine false) ∧
      Routine.Session drivingKernel (Call.perform driveHeader)
        lowPin (requestedLine false) [(.set .high, .returned ())]
        lowPin ⟨false, true, some true⟩ ∧
      (Change.perform driveHeader (.direction .low)).Executes
        drivingKernel lowPin ⟨false, true, some true⟩ (.returned ())
        lowPin ⟨false, true, some true⟩ ∧
      (⟨false, true, some true⟩ : GpioLine).level ≠ false := by
  refine ⟨construct_lowPin, ?_, ⟨rfl, rfl, rfl⟩, by decide⟩
  have executed :
      (Call.perform driveHeader (.set .high)).Executes drivingKernel
        lowPin (requestedLine false) (.returned ())
        lowPin ⟨false, true, some true⟩ :=
    Routine.Executes.call (0 : Int) ⟨rfl, rfl⟩ ⟨rfl, rfl, rfl⟩
  exact Routine.Session.start.call executed

end GpioPin

end Periphery
