import Periphery.Gpio.Request
import Periphery.Ledger

/-!
# Descriptors of chips and pins

A kernel in which every call succeeds and descriptor numbers are reused.  It
keeps a ledger of the grants, and it knows on behalf of which grant an object
makes its calls: closing or using a descriptor that is not open under that
grant is counted as a stray call.
-/

namespace Periphery

/-- The ledger of descriptors and the number of stray calls. -/
structure Descriptors where
  ledger : Ledger Int
  strays : Nat

namespace Descriptors

/-- The descriptor is open under the grant `number`. -/
def Under (descriptors : Descriptors) (number : Nat) (fd : Int) : Prop :=
  descriptors.ledger.table fd = some number

instance (descriptors : Descriptors) (number : Nat) (fd : Int) :
    Decidable (descriptors.Under number fd) :=
  inferInstanceAs (Decidable (_ = _))

/-- A call on `fd` on behalf of the grant `number`. -/
def use (descriptors : Descriptors) (number : Nat) (fd : Int) :
    Descriptors :=
  if descriptors.Under number fd then descriptors
  else { descriptors with strays := descriptors.strays + 1 }

/-- `close` on `fd` on behalf of the grant `number`. -/
def close (descriptors : Descriptors) (number : Nat) (fd : Int) :
    Descriptors :=
  { descriptors.use number fd with
    ledger := descriptors.ledger.close fd }

def grant (descriptors : Descriptors) (fd : Int) : Descriptors :=
  { descriptors with ledger := descriptors.ledger.grant fd }

theorem use_of_under
    {descriptors : Descriptors} {number : Nat} {fd : Int}
    (under : descriptors.Under number fd) :
    descriptors.use number fd = descriptors :=
  if_pos under

theorem close_of_under
    {descriptors : Descriptors} {number : Nat} {fd : Int}
    (under : descriptors.Under number fd) :
    descriptors.close number fd =
      { descriptors with ledger := descriptors.ledger.close fd } := by
  rw [close, use_of_under under]

end Descriptors

/-- A new descriptor is some number that is not open. -/
def Grants (descriptors : Descriptors) (fd : Int)
    (descriptors' : Descriptors) : Prop :=
  0 ≤ fd ∧ descriptors.ledger.table fd = none ∧
    descriptors' = descriptors.grant fd

/--
The calls of an object that holds the grant `own`; requests for a line go to
a chip that is open under the grant `chip`.
-/
def grantingKernel (own chip : Nat) : Kernel posix Descriptors :=
  fun descriptors request answer descriptors' =>
    match request, answer with
    | .open _ _, fd => Grants descriptors fd descriptors'
    | .close fd, error =>
        error = 0 ∧ descriptors' = descriptors.close own fd
    | .ioctl fd (.gpioGetLinehandle _), (success, handle) =>
        success = 0 ∧
          Grants (descriptors.use chip fd) handle descriptors'
    | .ioctl fd (.gpioGetLineevent _), (success, handle) =>
        success = 0 ∧
          Grants (descriptors.use chip fd) handle descriptors'
    | .ioctl fd .gpiohandleGetLineValues, (success, _) =>
        success = 0 ∧ descriptors' = descriptors.use own fd
    | .ioctl fd (.gpiohandleSetLineValues _), success =>
        success = 0 ∧ descriptors' = descriptors.use own fd
    | .ioctl _ .gpioGetChipinfo, success =>
        success = 0 ∧ descriptors' = descriptors
    | _, _ => descriptors' = descriptors

/-! ## Chips -/

namespace GpioChip

/-- A new chip holds the one new grant. -/
theorem construct_grants
    (path : String) (own number : Nat) (raw : GpioChip)
    (descriptors : Descriptors) :
    (construct path).Ensures (grantingKernel own number)
      (fun outcome chip descriptors' =>
        outcome = .returned () ∧
          Grants descriptors chip.m_fd descriptors')
      raw descriptors := by
  simp only [construct, sysOpen, sysIoctl, Routine.ensures_bind,
    Routine.ensures_update, Routine.ensures_call,
    Routine.ensures_done, Routine.ensures_ite, Routine.ensures_raise,
    Routine.ensures_pure, Routine.afterwards_returned,
    Routine.afterwards_threw, grantingKernel]
  rintro fd _ granted
  refine ⟨fun negative => absurd granted.1 (Int.not_le.mpr negative), ?_⟩
  rintro - _ _ ⟨rfl, rfl⟩
  refine ⟨fun negative => ?_, fun _ => ⟨trivial, granted⟩⟩
  exact absurd negative (Int.lt_irrefl 0)

theorem destruct_closes
    (own number : Nat) (chip : GpioChip) (descriptors : Descriptors) :
    destruct.Ensures (grantingKernel own number)
      (fun _ _ descriptors' =>
        descriptors' = descriptors.close own chip.m_fd)
      chip descriptors := by
  rintro _ _ ⟨-, rfl⟩
  rfl

end GpioChip

/-! ## Pins -/

namespace GpioPin

theorem answersLine_grantingKernel
    {own number : Nat} {descriptors descriptors' : Descriptors}
    {chip success fd : Int} {request : LineRequest} :
    AnswersLine (grantingKernel own number) descriptors chip request
        success fd descriptors' ↔
      success = 0 ∧
        Grants (descriptors.use number chip) fd descriptors' := by
  cases request <;> rfl

/-- A pin that holds its grant, on a chip that holds another. -/
structure Wired (own number : Nat) (pin : GpioPin)
    (descriptors : Descriptors) : Prop where
  valid : pin.m_fd ≥ 0
  handle : descriptors.Under own pin.m_fd
  chip : descriptors.Under number pin.m_chip.m_fd
  apart : own ≠ number

/-- The pin gave up its handle and got a new one. -/
def Exchanges (pin : GpioPin) (descriptors : Descriptors)
    (pin' : GpioPin) (descriptors' : Descriptors) : Prop :=
  ∃ fd wanted,
    0 ≤ fd ∧ (descriptors.ledger.close pin.m_fd).table fd = none ∧
      pin' = pin.configured fd wanted ∧
      descriptors' =
        { descriptors with
          ledger := (descriptors.ledger.close pin.m_fd).grant fd }

/-- The grant of the chip stays open while the pin closes its own. -/
theorem Wired.chip_after_close
    {own number : Nat} {pin : GpioPin} {descriptors : Descriptors}
    (wired : Wired own number pin descriptors) :
    (descriptors.close own pin.m_fd).Under number
      pin.m_chip.m_fd := by
  have different : pin.m_chip.m_fd ≠ pin.m_fd := by
    intro same
    have granted := wired.chip
    rw [same] at granted
    exact wired.apart (Option.some.inj (wired.handle.symm.trans granted))
  have granted : descriptors.ledger.table pin.m_fd = some own :=
    wired.handle
  rw [Descriptors.close_of_under wired.handle, Descriptors.Under,
    Ledger.close_of_granted granted]
  exact (Function.update_of_ne different _ _).trans wired.chip

/-- A call that changes the configuration exchanges grants or does nothing. -/
theorem perform_exchanges
    {header : GpioHeader} {own number : Nat} {pin : GpioPin}
    {descriptors : Descriptors}
    (wired : Wired own number pin descriptors) (change : Change) :
    (change.perform header).Ensures (grantingKernel own number)
      (fun _ pin' descriptors' =>
        pin' = pin ∧ descriptors' = descriptors ∨
          Exchanges pin descriptors pin' descriptors')
      pin descriptors := by
  apply ensures_perform
  · intro _
    apply ensures_reopen
    · intro error _
      exact .inl ⟨rfl, rfl⟩
    · intro flags _
      apply ensures_closeHandle
      · rintro _ _ _ ⟨rfl, rfl⟩
        refine ⟨fun failed => absurd failed (Int.lt_irrefl 0), fun _ => ?_⟩
        intro success fd descriptors' answered
        rcases answersLine_grantingKernel.mp answered with
          ⟨rfl, valid, unused, rfl⟩
        refine ⟨fun failed => absurd failed (Int.lt_irrefl 0), fun _ => ?_⟩
        rw [Descriptors.use_of_under wired.chip_after_close,
          Descriptors.close_of_under wired.handle] at unused ⊢
        exact .inr ⟨fd, change.wanted pin, valid, unused, rfl, rfl⟩
      · intro free
        exact absurd wired.valid free
  · intro _
    exact .inl ⟨rfl, rfl⟩

/-- A new pin holds the one new grant, unless its constructor throws. -/
def GrantsPin (chip : GpioChip) (descriptors : Descriptors) :
    Outcome Exception Unit → GpioPin → Descriptors → Prop
  | .returned _, pin, descriptors' =>
      pin.m_chip = chip ∧ Grants descriptors pin.m_fd descriptors'
  | .threw _, _, descriptors' => descriptors' = descriptors

theorem construct_grants
    {header : GpioHeader} {chip : GpioChip} {own number : Nat}
    {descriptors : Descriptors}
    (under : descriptors.Under number chip.m_fd)
    (line : BitVec 32) (label : List Byte) (settings : Attributes)
    (raw : GpioPin) :
    (construct header chip line label settings.direction
        settings.edge settings.bias settings.drive
        settings.invert).Ensures (grantingKernel own number)
      (GrantsPin chip descriptors) raw descriptors := by
  apply ensures_construct_unheld
  · intro error _
    exact rfl
  · intro flags _ success fd descriptors' answered
    rcases answersLine_grantingKernel.mp answered with ⟨rfl, granted⟩
    refine ⟨fun failed => absurd failed (Int.lt_irrefl 0), fun _ => ?_⟩
    rw [unopened, Descriptors.use_of_under under] at granted
    exact ⟨rfl, granted⟩

theorem destruct_closes
    (own number : Nat) (pin : GpioPin) (descriptors : Descriptors) :
    destruct.Ensures (grantingKernel own number)
      (fun _ _ descriptors' =>
        descriptors' = descriptors.close own pin.m_fd)
      pin descriptors := by
  rintro _ _ ⟨-, rfl⟩
  rfl

/-- Neither the pin nor a descriptor has changed. -/
def Keeps {Value : Type} (pin : GpioPin) (descriptors : Descriptors)
    (_ : Outcome Exception Value) (pin' : GpioPin)
    (descriptors' : Descriptors) : Prop :=
  pin' = pin ∧ descriptors' = descriptors

theorem get_uses
    {own number : Nat} {pin : GpioPin} {descriptors : Descriptors}
    (under : descriptors.Under own pin.m_fd) :
    get.Ensures (grantingKernel own number)
      (Keeps pin descriptors) pin descriptors := by
  simp only [get, sysIoctl, Routine.ensures_bind,
    Routine.ensures_self, Routine.ensures_call, Routine.ensures_done,
    Routine.ensures_ite, Routine.ensures_raise, Routine.ensures_pure,
    Routine.afterwards_returned, grantingKernel]
  rintro ⟨success, value⟩ _ ⟨-, rfl⟩
  rw [Descriptors.use_of_under under]
  exact ⟨fun _ => ⟨rfl, rfl⟩, fun _ => ⟨rfl, rfl⟩⟩

theorem set_uses
    {own number : Nat} {pin : GpioPin} {descriptors : Descriptors}
    (under : descriptors.Under own pin.m_fd) (value : State) :
    (set value).Ensures (grantingKernel own number)
      (Keeps pin descriptors) pin descriptors := by
  simp only [set, sysIoctl, Routine.ensures_bind,
    Routine.ensures_self, Routine.ensures_call, Routine.ensures_done,
    Routine.ensures_ite, Routine.ensures_raise, Routine.ensures_pure,
    Routine.afterwards_returned, grantingKernel]
  rintro success _ ⟨-, rfl⟩
  rw [Descriptors.use_of_under under]
  exact ⟨fun _ => ⟨rfl, rfl⟩, fun _ => ⟨rfl, rfl⟩⟩

end GpioPin

end Periphery
