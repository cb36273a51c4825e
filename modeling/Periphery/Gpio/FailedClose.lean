import Mathlib.Logic.Function.Basic
import Periphery.Gpio.Call
import Periphery.Gpio.Configuration

/-!
# A close that fails

Linux releases a descriptor whether or not `close` reports an error, and its
number may then go to any other object.  `reopen` keeps the number of a
descriptor whose close failed, so the next call that needs the handle, and
at the latest the destructor, acts on a descriptor that is not the pin's.
-/

namespace Periphery

/-- The descriptors of one pin, as the kernel knows them. -/
structure PinHandles where
  /-- Granted to the pin and not passed to `close` since. -/
  owned : Int → Bool
  /-- How many calls of `close` reported an error. -/
  failedCloses : Nat
  /--
  How often the pin passed a nonnegative descriptor that it does not own to
  `close`, or to the `ioctl` for a level.
  -/
  trespasses : Nat

namespace PinHandles

/-- Before the pin is constructed. -/
def initial : PinHandles where
  owned _ := false
  failedCloses := 0
  trespasses := 0

/-- The pin passes the descriptor to a call. -/
def use (handles : PinHandles) (fd : Int) : PinHandles :=
  if 0 ≤ fd ∧ handles.owned fd = false then
    { handles with trespasses := handles.trespasses + 1 }
  else
    handles

/-- The pin passes the descriptor to `close`, which reports `success`. -/
def close (handles : PinHandles) (fd success : Int) : PinHandles :=
  { handles.use fd with
    owned := Function.update handles.owned fd false
    failedCloses :=
      handles.failedCloses + if success < 0 then 1 else 0 }

def grant (handles : PinHandles) (fd : Int) : PinHandles :=
  { handles with owned := Function.update handles.owned fd true }

end PinHandles

/-- A request for a line is refused, or answered with a new descriptor. -/
def GrantsHandle (handles : PinHandles) (success fd : Int)
    (handles' : PinHandles) : Prop :=
  success < 0 ∧ handles' = handles ∨
    0 ≤ success ∧ 0 ≤ fd ∧ handles.owned fd = false ∧
      handles' = handles.grant fd

/--
The calls of one pin, each of which may fail.  The descriptor of a request
for a line is the chip's.
-/
def releasingKernel : Kernel posix PinHandles :=
  fun handles request answer handles' =>
    match request, answer with
    | .close fd, success => handles' = handles.close fd success
    | .ioctl _ (.gpioGetLinehandle _), (success, fd) =>
        GrantsHandle handles success fd handles'
    | .ioctl _ (.gpioGetLineevent _), (success, fd) =>
        GrantsHandle handles success fd handles'
    | .ioctl fd .gpiohandleGetLineValues, _ => handles' = handles.use fd
    | .ioctl fd (.gpiohandleSetLineValues _), _ =>
        handles' = handles.use fd
    | _, _ => handles' = handles

namespace GpioPin

theorem answersLine_releasingKernel
    {handles handles' : PinHandles} {chip success fd : Int}
    {request : LineRequest} :
    AnswersLine releasingKernel handles chip request success fd
        handles' ↔
      GrantsHandle handles success fd handles' := by
  cases request <;> rfl

/-! ## The invariant -/

/-- No close has failed, and the pin's handle is its own. -/
structure Owns (pin : GpioPin) (handles : PinHandles) : Prop where
  owned : 0 ≤ pin.m_fd → handles.owned pin.m_fd = true
  noFailure : handles.failedCloses = 0
  noTrespass : handles.trespasses = 0

/-- A close has failed: the pin has trespassed, or is about to. -/
structure Lost (pin : GpioPin) (handles : PinHandles) : Prop where
  failure : 0 < handles.failedCloses
  trespass :
    0 < handles.trespasses ∨
      0 ≤ pin.m_fd ∧ handles.owned pin.m_fd = false

/-- A pin owns its handle until a close fails. -/
def OwnsOrLost (pin : GpioPin) (handles : PinHandles) : Prop :=
  Owns pin handles ∨ Lost pin handles

section Invariant

variable {pin : GpioPin} {handles : PinHandles}

/-- The handle of a pin that owns it may be used. -/
theorem Owns.use (owns : Owns pin handles) :
    handles.use pin.m_fd = handles := by
  apply if_neg
  rintro ⟨held, lost⟩
  rw [owns.owned held] at lost
  cases lost

/-- The next use of a lost handle is a trespass. -/
theorem Lost.use (lost : Lost pin handles) :
    0 < (handles.use pin.m_fd).trespasses := by
  unfold PinHandles.use
  split_ifs with foreign
  · exact Nat.succ_pos _
  · exact lost.trespass.resolve_right foreign

theorem Lost.use_lost (lost : Lost pin handles) :
    Lost pin (handles.use pin.m_fd) := by
  unfold PinHandles.use
  split_ifs
  · exact ⟨lost.failure, .inl (Nat.succ_pos _)⟩
  · exact lost

/-- Closing an owned handle gives it up, or loses it. -/
theorem Owns.close
    (owns : Owns pin handles) (held : 0 ≤ pin.m_fd) (success : Int) :
    (success < 0 → Lost pin (handles.close pin.m_fd success)) ∧
      (¬ success < 0 →
        Owns { pin with m_fd := -1 }
          (handles.close pin.m_fd success)) := by
  rw [PinHandles.close, owns.use]
  constructor
  · intro failed
    refine ⟨?_, .inr ⟨held, Function.update_self ..⟩⟩
    rw [if_pos failed]
    exact Nat.succ_pos _
  · intro closed
    rw [if_neg closed]
    have given : ¬ (0 : Int) ≤ -1 := by decide
    exact
      ⟨fun valid => absurd valid given, owns.noFailure,
        owns.noTrespass⟩

/-- Closing a lost handle is a trespass. -/
theorem Lost.close
    (lost : Lost pin handles) (success : Int) (pin' : GpioPin) :
    Lost pin' (handles.close pin.m_fd success) :=
  ⟨Nat.add_pos_left lost.failure _, .inl lost.use⟩

/-- A pin with a new handle owns it. -/
theorem Owns.granted
    (owns : Owns pin handles) (fd : Int) (wanted : Attributes) :
    Owns (pin.configured fd wanted) (handles.grant fd) where
  owned _ := Function.update_self ..
  noFailure := owns.noFailure
  noTrespass := owns.noTrespass

/-! ## Calls -/

/-- What the request for a line makes of a pin that owns its handle. -/
theorem Owns.afterClose
    (owns : Owns pin handles) (wanted : Attributes)
    (flags : BitVec 32) :
    AfterClose releasingKernel wanted flags (fun _ => OwnsOrLost)
      (.returned ()) pin handles := by
  intro success fd handles' answered
  rcases answersLine_releasingKernel.mp answered with
    ⟨refused, rfl⟩ | ⟨granted, _, _, rfl⟩
  · exact ⟨fun _ _ => .inl owns, fun valid => absurd refused valid⟩
  · exact
      ⟨fun refused => absurd granted (Int.not_le.mpr refused),
        fun _ => .inl (owns.granted fd wanted)⟩

/-- A pin that has trespassed stays one that has. -/
theorem Lost.afterClose
    (failure : 0 < handles.failedCloses)
    (trespass : 0 < handles.trespasses) (wanted : Attributes)
    (flags : BitVec 32) :
    AfterClose releasingKernel wanted flags (fun _ => Lost)
      (.returned ()) pin handles := by
  intro success fd handles' answered
  rcases answersLine_releasingKernel.mp answered with
    ⟨refused, rfl⟩ | ⟨granted, _, _, rfl⟩
  · exact
      ⟨fun _ _ => ⟨failure, .inl trespass⟩,
        fun _ => ⟨failure, .inl trespass⟩⟩
  · exact
      ⟨fun _ _ => ⟨failure, .inl trespass⟩,
        fun _ => ⟨failure, .inl trespass⟩⟩

theorem Owns.perform
    {header : GpioHeader} (owns : Owns pin handles) (call : Call) :
    (call.perform header).Ensures releasingKernel
      (fun _ => OwnsOrLost) pin handles := by
  cases call with
  | change update =>
      apply ensures_perform
      · intro _
        apply ensures_reopen
        · exact fun _ _ => .inl owns
        · intro flags _
          apply ensures_closeHandle
          · rintro held success _ rfl
            rcases owns.close held success with ⟨lost, closed⟩
            exact
              ⟨fun failed _ => .inr (lost failed),
                fun valid => (closed valid).afterClose _ flags⟩
          · exact fun _ => owns.afterClose _ flags
      · exact fun _ => .inl owns
  | get =>
      apply ensures_get
      rintro success value _ rfl
      rw [owns.use]
      exact ⟨fun _ _ => .inl owns, fun _ => .inl owns⟩
  | set value =>
      apply ensures_set
      rintro success _ rfl
      rw [owns.use]
      exact ⟨fun _ _ => .inl owns, fun _ => .inl owns⟩

theorem Lost.perform
    {header : GpioHeader} (lost : Lost pin handles) (call : Call) :
    (call.perform header).Ensures releasingKernel
      (fun _ => Lost) pin handles := by
  cases call with
  | change update =>
      apply ensures_perform
      · intro _
        apply ensures_reopen
        · exact fun _ _ => lost
        · intro flags _
          apply ensures_closeHandle
          · rintro held success _ rfl
            have trespassed := lost.close success
            refine ⟨fun _ _ => trespassed pin, fun _ => ?_⟩
            exact
              Lost.afterClose (trespassed pin).failure lost.use _ flags
          · intro free
            have trespass :=
              lost.trespass.resolve_right fun held => free held.1
            exact Lost.afterClose lost.failure trespass _ flags
      · exact fun _ => lost
  | get =>
      apply ensures_get
      rintro success value _ rfl
      exact ⟨fun _ _ => lost.use_lost, fun _ => lost.use_lost⟩
  | set value =>
      apply ensures_set
      rintro success _ rfl
      exact ⟨fun _ _ => lost.use_lost, fun _ => lost.use_lost⟩

end Invariant

/-- A new pin has no handle to lose. -/
theorem construct_owns
    (header : GpioHeader) (chip : GpioChip) (line : BitVec 32)
    (label : List Byte) (settings : Attributes) (raw : GpioPin) :
    (construct header chip line label settings.direction
        settings.edge settings.bias settings.drive
        settings.invert).Ensures releasingKernel
      (fun _ => OwnsOrLost) raw .initial := by
  have given : ¬ (-1 : Int) ≥ 0 := by decide
  have owns : Owns (raw.unopened chip line label) .initial :=
    ⟨fun held => absurd held given, rfl, rfl⟩
  apply ensures_construct_unheld
  · exact fun _ _ => .inl owns
  · exact fun flags _ => owns.afterClose settings flags

theorem destruct_uses (pin : GpioPin) (handles : PinHandles) :
    destruct.Ensures releasingKernel
      (fun _ _ handles' =>
        handles'.trespasses = (handles.use pin.m_fd).trespasses)
      pin handles := by
  rintro _ _ rfl
  rfl

/-! ## Whole lives -/

/--
For every constructor that returns and every session of calls, with any of
them failing: as long as no close has failed the pin has not trespassed; and
once the destructor has run, it has trespassed exactly if a close had failed
before.
-/
theorem trespasses_iff_failed_close
    {header : GpioHeader} {chip : GpioChip} {line : BitVec 32}
    {label : List Byte} {settings : Attributes}
    {raw pin₀ pin : GpioPin} {handles₀ handles : PinHandles}
    {history : List (Call × Outcome Exception Unit)}
    (constructed :
      (construct header chip line label settings.direction
          settings.edge settings.bias settings.drive
          settings.invert).Executes releasingKernel
        raw .initial (.returned ()) pin₀ handles₀)
    (session :
      Routine.Session releasingKernel (Call.perform header)
        pin₀ handles₀ history pin handles) :
    (handles.failedCloses = 0 → handles.trespasses = 0) ∧
      ∀ outcome pin' handles',
        destruct.Executes releasingKernel
            pin handles outcome pin' handles' →
          (handles'.trespasses = 0 ↔ handles.failedCloses = 0) := by
  have state : OwnsOrLost pin handles := by
    apply session.invariant (motive := fun _ => OwnsOrLost)
    · exact
        (construct_owns header chip line label settings raw).of_executes
          constructed
    · rintro history pin handles call (owns | lost)
      · exact owns.perform call
      · exact (lost.perform call).mono fun _ _ _ => .inr
  rcases state with owns | lost
  · refine ⟨fun _ => owns.noTrespass, ?_⟩
    intro outcome pin' handles' executed
    rw [(destruct_uses pin handles).of_executes executed, owns.use]
    exact iff_of_true owns.noTrespass owns.noFailure
  · have failed := Nat.ne_of_gt lost.failure
    refine ⟨fun none => absurd none failed, ?_⟩
    intro outcome pin' handles' executed
    rw [(destruct_uses pin handles).of_executes executed]
    exact iff_of_false (Nat.ne_of_gt lost.use) failed

/-! ## An input pin -/

/-- The handles of `inputPin`. -/
def inputHandles : PinHandles := PinHandles.initial.grant 4

theorem construct_inputPin :
    (construct driveHeader ⟨3⟩ 17 [] .input .none .default .default
        .off).Executes releasingKernel
      rawPin .initial (.returned ()) inputPin inputHandles := by
  apply Routine.Executes.call ((0 : Int), (4 : Int))
    (.inr ⟨by decide, by decide, rfl, rfl⟩)
  exact ⟨rfl, rfl, rfl⟩

/-- An input pin that is destroyed at once does not trespass. -/
theorem inputPin_keeps_off :
    destruct.Executes releasingKernel
        inputPin inputHandles (.returned ()) inputPin
        (inputHandles.close 4 0) ∧
      (inputHandles.close 4 0).trespasses = 0 := by
  have executed :
      destruct.Executes releasingKernel
        inputPin inputHandles (.returned ()) inputPin
        (inputHandles.close 4 0) :=
    .call (0 : Int) rfl ⟨rfl, rfl, rfl⟩
  refine ⟨executed, ?_⟩
  apply
    ((@trespasses_iff_failed_close driveHeader ⟨3⟩ 17 []
      inputPin.attributes rawPin inputPin inputPin inputHandles
      inputHandles [] construct_inputPin .start).2 _ _ _ executed).mpr
  rfl

/--
The close of the handle 4 fails while the input becomes an output, and the
caller goes on: the destructor closes 4 once more.
-/
theorem inputPin_trespasses :
    (construct driveHeader ⟨3⟩ 17 [] .input .none .default .default
        .off).Executes releasingKernel
        rawPin .initial (.returned ()) inputPin inputHandles ∧
      Routine.Session releasingKernel (Call.perform driveHeader)
        inputPin inputHandles
        [(.change (.direction .high),
          .threw (.systemError 1 "Failed to close GPIO line."))]
        inputPin (inputHandles.close 4 (-1)) ∧
      destruct.Executes releasingKernel
        inputPin (inputHandles.close 4 (-1)) (.returned ())
        inputPin ((inputHandles.close 4 (-1)).close 4 0) ∧
      ((inputHandles.close 4 (-1)).close 4 0).trespasses ≠ 0 := by
  refine ⟨construct_inputPin, ?_, ?_, by decide⟩
  · have executed :
        (Call.perform driveHeader (.change (.direction .high))).Executes
          releasingKernel inputPin inputHandles
          (.threw (.systemError 1 "Failed to close GPIO line."))
          inputPin (inputHandles.close 4 (-1)) := by
      apply Routine.Executes.call (-1 : Int) rfl
      exact And.intro rfl (And.intro rfl rfl)
    exact Routine.Session.start.call executed
  · exact Routine.Executes.call (0 : Int) rfl ⟨rfl, rfl, rfl⟩

end GpioPin

end Periphery
