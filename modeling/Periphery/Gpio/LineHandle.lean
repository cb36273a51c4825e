import Mathlib.Logic.Function.Basic
import Periphery.Gpio.Request

/-!
# The handle of a pin and its cached configuration

A pin keeps its configuration twice: as five cached attributes, and in the
request behind its open handle.  This module follows both through every
session of setter calls, with a kernel that may refuse any request.

The invariant is that a pin without a handle holds nothing, and that the
request behind an open handle is the one its line, its label and its cached
attributes determine.
-/

namespace Periphery

/-! ## Requests in force -/

/-- A request that the kernel granted, with the chip it was made on. -/
structure LineGrant where
  chip : Int
  request : LineRequest
deriving DecidableEq

/-- The grants that are in force, by the descriptor handed out for each. -/
abbrev Lines := Int → Option LineGrant

def noLines : Lines := fun _ => none

/-- How the kernel answers a request for a line: it refuses or it grants. -/
def AnswersRequest (lines : Lines) (chip : Int)
    (request : LineRequest) (success fd : Int) (lines' : Lines) :
    Prop :=
  success < 0 ∧ lines' = lines ∨
    0 ≤ success ∧ 0 ≤ fd ∧ lines fd = none ∧
      lines' = Function.update lines fd (some ⟨chip, request⟩)

/--
A kernel that grants or refuses each request as it likes.  Closing succeeds
and ends the grant.
-/
def lineKernel : Kernel posix Lines :=
  fun lines request answer lines' =>
    match request, answer with
    | .close fd, error =>
        error = 0 ∧ lines' = Function.update lines fd none
    | .ioctl chip (.gpioGetLinehandle request), (success, fd) =>
        AnswersRequest lines chip (.handle request) success fd lines'
    | .ioctl chip (.gpioGetLineevent request), (success, fd) =>
        AnswersRequest lines chip (.event request) success fd lines'
    | _, _ => lines' = lines

namespace GpioPin

/-! ## Grants of a pin -/

/-- The grant behind a handle of `pin` that has the wanted configuration. -/
def grant (pin : GpioPin) (wanted : Attributes) (flags : BitVec 32) :
    LineGrant :=
  ⟨pin.m_chip.m_fd, wanted.request pin.m_line pin.m_label flags⟩

/-- The pin after it gave up its handle. -/
def withoutHandle (pin : GpioPin) : GpioPin :=
  if pin.m_fd ≥ 0 then { pin with m_fd := -1 } else pin

/-- The grants in force after `pin` gave up its handle. -/
def released (pin : GpioPin) (lines : Lines) : Lines :=
  if pin.m_fd ≥ 0 then Function.update lines pin.m_fd none else lines

@[simp]
theorem attributes_withoutHandle (pin : GpioPin) :
    pin.withoutHandle.attributes = pin.attributes := by
  unfold withoutHandle
  split <;> rfl

@[simp]
theorem grant_withoutHandle
    (pin : GpioPin) (wanted : Attributes) (flags : BitVec 32) :
    pin.withoutHandle.grant wanted flags = pin.grant wanted flags := by
  unfold withoutHandle
  split <;> rfl

/-! ## What `reopen` does -/

theorem closeHandle_ensures (pin : GpioPin) (lines : Lines) :
    closeHandle.Ensures lineKernel
      (fun outcome pin' lines' =>
        outcome = .returned () ∧ pin' = pin.withoutHandle ∧
          lines' = pin.released lines)
      pin lines := by
  apply ensures_closeHandle
  · rintro held _ _ ⟨rfl, rfl⟩
    rw [withoutHandle, if_pos held, released, if_pos held]
    exact ⟨nofun, fun _ => ⟨rfl, rfl, rfl⟩⟩
  · intro free
    rw [withoutHandle, if_neg free, released, if_neg free]
    exact ⟨rfl, rfl, rfl⟩

/-- Requests of either kind are refused or granted alike. -/
theorem answersLine_lineKernel
    {lines lines' : Lines} {chip success fd : Int}
    {request : LineRequest} :
    AnswersLine lineKernel lines chip request success fd lines' ↔
      AnswersRequest lines chip request success fd lines' := by
  cases request <;> rfl

/--
The effect of `reopen`.  An unsupported configuration throws before anything
changes; a refusal leaves the pin without a handle and its attributes as they
were.
-/
def Reopens (header : GpioHeader) (wanted : Attributes)
    (pin : GpioPin) (lines : Lines) :
    Outcome Exception Unit → GpioPin → Lines → Prop
  | .returned _, pin', lines' =>
      ∃ flags fd,
        wanted.flags header = .ok flags ∧ 0 ≤ fd ∧
          pin.released lines fd = none ∧
          pin' = pin.configured fd wanted ∧
          lines' =
            Function.update (pin.released lines) fd
              (some (pin.grant wanted flags))
  | .threw error, pin', lines' =>
      wanted.flags header = .error error ∧ pin' = pin ∧
          lines' = lines ∨
        ∃ flags,
          wanted.flags header = .ok flags ∧
            pin' = pin.withoutHandle ∧ lines' = pin.released lines

theorem reopen_ensures
    (header : GpioHeader) (wanted : Attributes)
    (pin : GpioPin) (lines : Lines) :
    (reopen header wanted.direction wanted.edge wanted.bias
        wanted.drive wanted.invert).Ensures lineKernel
      (Reopens header wanted pin lines) pin lines := by
  apply ensures_reopen
  · intro error unsupported
    exact .inl ⟨unsupported, rfl, rfl⟩
  · intro flags supported
    apply (closeHandle_ensures pin lines).mono
    rintro _ _ _ ⟨rfl, rfl, rfl⟩ success fd lines' answered
    rw [answersLine_lineKernel] at answered
    rcases answered with
      ⟨refused, rfl⟩ | ⟨granted, valid, unused, rfl⟩
    · refine ⟨fun _ _ => .inr ⟨flags, supported, rfl, rfl⟩, ?_⟩
      intro accepted
      exact absurd refused accepted
    · refine ⟨fun refused => ?_, fun _ => ?_⟩
      · exact absurd granted (Int.not_le.mpr refused)
      · refine ⟨flags, fd, supported, valid, unused, ?_, ?_⟩
        · unfold withoutHandle
          split <;> rfl
        · rw [← grant_withoutHandle, grant]

end GpioPin

end Periphery
