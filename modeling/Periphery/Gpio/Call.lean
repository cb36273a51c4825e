import Periphery.Gpio.Request

/-!
# Calls on a pin

All member functions of a pin that talk to the kernel, as data: those that
may change the configuration, and the two that read and write the level.
-/

namespace Periphery.GpioPin

/-- A call on a pin. -/
inductive Call where
  | change (update : Change)
  | get
  | set (value : State)
deriving DecidableEq, Repr

/-- The member function that a call runs; the level it reads is dropped. -/
def Call.perform (header : GpioHeader) : Call → Method GpioPin Unit
  | .change update => update.perform header
  | .get => do
      let _ ← GpioPin.get
      return ()
  | .set value => GpioPin.set value

section Rules

variable
    {Kept : Type} {kernel : Kernel posix Kept}
    {header : GpioHeader} {pin : GpioPin} {state : Kept}
    {post : Outcome Exception Unit → GpioPin → Kept → Prop}

theorem ensures_get
    (answered : ∀ success value state',
      kernel state (.ioctl pin.m_fd .gpiohandleGetLineValues)
          (success, value) state' →
        (success < 0 → ∀ error, post (.threw error) pin state') ∧
          (¬ success < 0 → post (.returned ()) pin state')) :
    (Call.perform header .get).Ensures kernel post pin state := by
  simp only [Call.perform, get, sysIoctl, Routine.ensures_bind,
    Routine.ensures_self, Routine.ensures_call, Routine.ensures_done,
    Routine.ensures_ite, Routine.ensures_raise, Routine.ensures_pure,
    Routine.afterwards_returned, Routine.afterwards_threw]
  rintro ⟨success, value⟩ state' replied
  exact
    ⟨fun failed => (answered success value state' replied).1 failed _,
      (answered success value state' replied).2⟩

theorem ensures_set
    (value : State)
    (answered : ∀ success state',
      kernel state
          (.ioctl pin.m_fd
            (.gpiohandleSetLineValues (if value = .high then 1 else 0)))
          success state' →
        (success < 0 → ∀ error, post (.threw error) pin state') ∧
          (¬ success < 0 → post (.returned ()) pin state')) :
    (Call.perform header (.set value)).Ensures kernel post pin state := by
  simp only [Call.perform, set, sysIoctl, Routine.ensures_bind,
    Routine.ensures_self, Routine.ensures_call, Routine.ensures_done,
    Routine.ensures_ite, Routine.ensures_raise, Routine.ensures_pure,
    Routine.afterwards_returned]
  rintro success state' replied
  exact
    ⟨fun failed => (answered success state' replied).1 failed _,
      (answered success state' replied).2⟩

end Rules

end Periphery.GpioPin
