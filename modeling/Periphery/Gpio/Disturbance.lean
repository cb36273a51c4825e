import Periphery.Gpio.Level

/-!
# Attributes that do not speak of levels

The setters of the edge, the bias and the drive release the line and request
it again, so they drive an output anew: with the level of the cached
direction, and not with the level of the last `set`.

Every call of the kernel may fail here.  As on Linux, `close` releases the
line even then.
-/

namespace Periphery

/-- A line with the handle that it is held through. -/
structure HeldLine where
  handle : Option Int
  line : GpioLine
deriving DecidableEq, Repr

/-- A request for the line is refused, or the line is held anew. -/
def HoldsLine (held : HeldLine) (request : LineRequest)
    (success fd : Int) (held' : HeldLine) : Prop :=
  success < 0 ∧ held' = held ∨
    0 ≤ success ∧ 0 ≤ fd ∧ held'.handle = some fd ∧
      held'.line.Requested request.flags request.value

/--
The line behind a pin, with calls that may fail.  Nothing is said about the
level of a line that is not held.
-/
def heldKernel : Kernel posix HeldLine :=
  fun held request answer held' =>
    match request, answer with
    | .close fd, _ =>
        held.handle = some fd ∧ held'.handle = none ∨
          held.handle ≠ some fd ∧ held' = held
    | .ioctl _ (.gpioGetLinehandle request), (success, fd) =>
        HoldsLine held (.handle request) success fd held'
    | .ioctl _ (.gpioGetLineevent request), (success, fd) =>
        HoldsLine held (.event request) success fd held'
    | .ioctl fd (.gpiohandleSetLineValues value), success =>
        0 ≤ success ∧ held.handle = some fd ∧
            held' = { held with line := held.line.set (value ≠ 0) } ∨
          (success < 0 ∨ held.handle ≠ some fd) ∧ held' = held
    | _, _ => held' = held

namespace GpioPin

theorem answersLine_heldKernel
    {held held' : HeldLine} {chip success fd : Int}
    {request : LineRequest} :
    AnswersLine heldKernel held chip request success fd held' ↔
      HoldsLine held request success fd held' := by
  cases request <;> rfl

/-! ## The invariant -/

/-- The handle of a held line is that of the pin, which drives the line. -/
def Holds (pin : GpioPin) (held : HeldLine) : Prop :=
  ∀ fd, held.handle = some fd → pin.m_fd = fd ∧ Drives pin held.line

section Invariant

variable {pin : GpioPin} {held held' : HeldLine}

theorem Holds.of_none (free : held.handle = none) : Holds pin held := by
  intro fd opened
  rw [free] at opened
  cases opened

/-- Closing the handle of the pin leaves the line unheld. -/
theorem Holds.close
    (holds : Holds pin held) {success : Int}
    (closed : heldKernel held (.close pin.m_fd) success held') :
    held'.handle = none := by
  rcases closed with ⟨_, free⟩ | ⟨foreign, rfl⟩
  · exact free
  · cases handle : held'.handle with
    | none => rfl
    | some fd =>
        rw [handle, ← (holds fd handle).1] at foreign
        exact absurd rfl foreign

/-- A call of `reopen` that returns holds the line anew. -/
def HeldAnew (wanted : Attributes) (outcome : Outcome Exception Unit)
    (pin' : GpioPin) (held' : HeldLine) : Prop :=
  Holds pin' held' ∧
    (outcome = .returned () →
      pin'.attributes = wanted ∧ held'.handle = some pin'.m_fd ∧
        held'.line.lastSet = none)

theorem Holds.afterClose
    {header : GpioHeader} (apart : header.DisableApart)
    {wanted : Attributes} {flags : BitVec 32}
    (supported : wanted.flags header = .ok flags)
    (holds : Holds pin held) :
    AfterClose heldKernel wanted flags (HeldAnew wanted) (.returned ())
      pin held := by
  intro success fd held' answered
  rcases answersLine_heldKernel.mp answered with
    ⟨refused, rfl⟩ | ⟨granted, _, opened, requested⟩
  · exact
      ⟨fun _ _ => ⟨holds, by rintro ⟨⟩⟩, fun valid => absurd refused valid⟩
  · refine ⟨fun refused => absurd granted (Int.not_le.mpr refused), ?_⟩
    intro _
    refine ⟨fun fd' opened' => ?_, fun _ => ⟨rfl, opened, requested.2.1⟩⟩
    rw [opened] at opened'
    exact
      ⟨Option.some.inj opened',
        .of_requested apart supported requested fd⟩

theorem Holds.reopen
    {header : GpioHeader} (apart : header.DisableApart)
    (wanted : Attributes) (holds : Holds pin held) :
    (reopen header wanted.direction wanted.edge wanted.bias
        wanted.drive wanted.invert).Ensures heldKernel
      (HeldAnew wanted) pin held := by
  apply ensures_reopen
  · exact fun _ _ => ⟨holds, by rintro ⟨⟩⟩
  · intro flags supported
    apply ensures_closeHandle
    · intro _ success held' closed
      have free := holds.close closed
      exact
        ⟨fun _ _ => ⟨.of_none free, by rintro ⟨⟩⟩,
          fun _ => (Holds.of_none free).afterClose apart supported⟩
    · exact fun _ => holds.afterClose apart supported

/-- A call holds the line anew, or it takes the shortcut of its setter. -/
theorem Holds.change
    {header : GpioHeader} (apart : header.DisableApart)
    (holds : Holds pin held) (change : Change) :
    (change.perform header).Ensures heldKernel
      (fun outcome pin' held' =>
        change.Differs pin ∧
            HeldAnew (change.wanted pin) outcome pin' held' ∨
          ¬ change.Differs pin ∧ pin' = pin ∧ held' = held)
      pin held := by
  apply ensures_perform
  · intro differs
    apply (holds.reopen apart (change.wanted pin)).mono
    exact fun _ _ _ anew => .inl ⟨differs, anew⟩
  · exact fun same => .inr ⟨same, rfl, rfl⟩

/-- Every call keeps the invariant, also when it fails. -/
theorem Holds.perform
    {header : GpioHeader} (apart : header.DisableApart)
    (holds : Holds pin held) (call : Call) :
    (call.perform header).Ensures heldKernel (fun _ => Holds)
      pin held := by
  cases call with
  | change update =>
      apply (holds.change apart update).mono
      rintro outcome pin' held' (⟨_, anew⟩ | ⟨_, rfl, rfl⟩)
      · exact anew.1
      · exact holds
  | get =>
      apply ensures_get
      rintro success value _ rfl
      exact ⟨fun _ _ => holds, fun _ => holds⟩
  | set value =>
      apply ensures_set
      rintro success held' (⟨_, opened, rfl⟩ | ⟨_, rfl⟩)
      · have after :
            Holds pin
              { held with
                line :=
                  held.line.set
                    ((if value = .high then (1 : Byte) else 0) ≠ 0) } :=
          fun fd opened' =>
            ⟨(holds fd opened').1, (holds fd opened').2.set _⟩
        exact ⟨fun _ _ => after, fun _ => after⟩
      · exact ⟨fun _ _ => holds, fun _ => holds⟩

end Invariant

/-- A new pin holds nothing before its first request. -/
theorem construct_holds
    {header : GpioHeader} (apart : header.DisableApart)
    (chip : GpioChip) (line : BitVec 32) (label : List Byte)
    (settings : Attributes) (raw : GpioPin) {before : HeldLine}
    (unheld : before.handle = none) :
    (construct header chip line label settings.direction
        settings.edge settings.bias settings.drive
        settings.invert).Ensures heldKernel
      (fun _ => Holds) raw before := by
  apply ensures_construct
  apply ((Holds.of_none unheld).reopen apart settings).mono
  exact fun _ _ _ anew => anew.1

/-! ## The level of an output -/

/-- The call sets an attribute that does not speak of levels. -/
def Change.SparesLevel : Change → Prop
  | .direction _ => False
  | .edge _ => True
  | .bias _ => True
  | .drive _ => True
  | .invert _ => False
  | .reconfigure _ => False

theorem Change.wanted_direction
    {change : Change} (spares : change.SparesLevel) (pin : GpioPin) :
    (change.wanted pin).direction = pin.m_direction := by
  cases change with
  | direction value => cases spares
  | edge value => rfl
  | bias value => rfl
  | drive value => rfl
  | invert value => cases spares
  | reconfigure settings => cases spares

/-- The line is driven, since its last request, as the direction says. -/
def DrivenAsCached (pin : GpioPin) (line : GpioLine) : Prop :=
  ∀ value, line.lastSet = some value →
    Bool.xor value (pin.m_invert = .on) =
      decide (pin.m_direction = .high)

theorem Drives.level_eq_iff
    {pin : GpioPin} {line : GpioLine} (drives : Drives pin line)
    (output : pin.m_direction ≠ .input) :
    decide (pin.m_direction = .high) = line.level ↔
      DrivenAsCached pin line := by
  unfold DrivenAsCached
  cases lastSet : line.lastSet with
  | none =>
      rw [drives.initial lastSet output]
      exact iff_of_true rfl (by rintro _ ⟨⟩)
  | some value =>
      rw [drives.driven value lastSet, drives.activeLow]
      constructor
      · rintro same _ ⟨⟩
        exact same.symm
      · exact fun cached => (cached value rfl).symm

/--
For every constructor and every later session of calls, any of which may
fail: a returning call of `edge`, `bias` or `drive` on an open output leaves
the level of the line, exactly if the call takes the shortcut of its setter,
or the levels set since the line was requested end with that of the cached
direction.
-/
theorem level_kept_iff
    {header : GpioHeader} (apart : header.DisableApart)
    {chip : GpioChip} {number : BitVec 32} {label : List Byte}
    {settings : Attributes} {raw pin₀ pin pin' : GpioPin}
    {before held₀ held held' : HeldLine}
    {history : List (Call × Outcome Exception Unit)}
    (unheld : before.handle = none)
    (constructed :
      (construct header chip number label settings.direction
          settings.edge settings.bias settings.drive
          settings.invert).Executes heldKernel
        raw before (.returned ()) pin₀ held₀)
    (session :
      Routine.Session heldKernel (Call.perform header)
        pin₀ held₀ history pin held)
    (opened : held.handle = some pin.m_fd)
    (output : pin.m_direction ≠ .input)
    {change : Change} (spares : change.SparesLevel)
    (executed :
      (change.perform header).Executes heldKernel
        pin held (.returned ()) pin' held') :
    held'.line.level = held.line.level ↔
      ¬ change.Differs pin ∨ DrivenAsCached pin held.line := by
  have holds : Holds pin held := by
    apply session.invariant (motive := fun _ => Holds)
    · exact
        (construct_holds apart chip number label settings raw
          unheld).of_executes constructed
    · intro history pin held call holds
      exact holds.perform apart call
  have drives : Drives pin held.line := (holds _ opened).2
  rcases (holds.change apart change).of_executes executed with
    ⟨differs, holds', anew⟩ | ⟨same, rfl, rfl⟩
  · rcases anew rfl with ⟨attributes, opened', fresh⟩
    have direction : pin'.m_direction = pin.m_direction := by
      rw [← change.wanted_direction spares pin, ← attributes]
      rfl
    have level :
        held'.line.level = decide (pin.m_direction = .high) := by
      rw [← direction]
      apply (holds' _ opened').2.initial fresh
      rw [direction]
      exact output
    rw [level, or_iff_right (Classical.not_not.mpr differs)]
    exact drives.level_eq_iff output
  · exact iff_of_true rfl (.inl same)

/-! ## An output that starts low -/

/-- The line of `lowPin`, held through the given descriptor. -/
def heldLow (fd : Int) : HeldLine := ⟨some fd, requestedLine false⟩

theorem construct_heldLow :
    (construct driveHeader ⟨3⟩ 17 [] .low .none .default .default
        .off).Executes heldKernel
      rawPin ⟨none, requestedLine true⟩ (.returned ()) lowPin
      (heldLow 4) := by
  refine Routine.Executes.call ((0 : Int), (4 : Int)) ?_ ⟨rfl, rfl, rfl⟩
  exact .inr ⟨by decide, by decide, rfl, rfl, rfl, fun _ => rfl⟩

/-- Asking for rising edges requests the line of `lowPin` anew. -/
theorem edge_lowPin (line : GpioLine) :
    (Change.perform driveHeader (.edge .rising)).Executes heldKernel
      lowPin ⟨some 4, line⟩ (.returned ())
      { lowPin with m_fd := 5, m_edge := .rising } (heldLow 5) := by
  have closed :
      heldKernel ⟨some 4, line⟩ (.close 4) (0 : Int) ⟨none, line⟩ :=
    .inl ⟨rfl, rfl⟩
  apply Routine.Executes.call (0 : Int) closed
  refine Routine.Executes.call ((0 : Int), (5 : Int)) ?_ ⟨rfl, rfl, rfl⟩
  exact .inr ⟨by decide, by decide, rfl, rfl, rfl, fun _ => rfl⟩

/-- The line of `lowPin` stays low if nothing was set. -/
theorem lowPin_undisturbed :
    (heldLow 5).line.level = (heldLow 4).line.level := by
  apply
    (@level_kept_iff driveHeader driveHeader_apart ⟨3⟩ 17 []
      lowPin.attributes rawPin lowPin lowPin
      { lowPin with m_fd := 5, m_edge := .rising }
      ⟨none, requestedLine true⟩ (heldLow 4) (heldLow 4) (heldLow 5)
      [] rfl construct_heldLow .start rfl (by rintro ⟨⟩)
      (.edge .rising) trivial (edge_lowPin _)).mpr
  exact .inr (by rintro _ ⟨⟩)

/-- After its line was set high, asking for edges makes it low again. -/
theorem lowPin_disturbed :
    (construct driveHeader ⟨3⟩ 17 [] .low .none .default .default
        .off).Executes heldKernel
        rawPin ⟨none, requestedLine true⟩ (.returned ()) lowPin
        (heldLow 4) ∧
      Routine.Session heldKernel (Call.perform driveHeader)
        lowPin (heldLow 4) [(.set .high, .returned ())]
        lowPin ⟨some 4, false, true, some true⟩ ∧
      (Change.perform driveHeader (.edge .rising)).Executes heldKernel
        lowPin ⟨some 4, false, true, some true⟩ (.returned ())
        { lowPin with m_fd := 5, m_edge := .rising } (heldLow 5) ∧
      (heldLow 5).line.level ≠
        (⟨some 4, false, true, some true⟩ : HeldLine).line.level := by
  refine ⟨construct_heldLow, ?_, edge_lowPin _, by decide⟩
  have executed :
      (Call.perform driveHeader (.set .high)).Executes heldKernel
        lowPin (heldLow 4) (.returned ())
        lowPin ⟨some 4, false, true, some true⟩ := by
    refine Routine.Executes.call (0 : Int) ?_ ⟨rfl, rfl, rfl⟩
    exact .inl ⟨by decide, rfl, rfl⟩
  exact Routine.Session.start.call executed

end GpioPin

end Periphery
