import Mathlib.Logic.Relation
import Periphery.Gpio.Configuration
import Periphery.Gpio.Descriptors

/-!
# Ownership of chips and pins

Chips live behind shared pointers: one that the caller may keep, and one in
each pin of the chip.  A chip is destroyed when the last of them goes.  Both
classes can be copied, and a copy carries the descriptor of its original.

A process is followed step by step, with every kernel call succeeding.  In a
run without copies the ledger of descriptors stays balanced with what the
live objects hold.
-/

namespace Periphery

/-! ## Objects -/

/-- A live chip, the grant it holds, and whether the caller points to it. -/
structure ChipEntry where
  chip : GpioChip
  number : Nat
  held : Bool
deriving DecidableEq, Repr

/-- A live pin, the grant it holds, and the name of its chip. -/
structure PinEntry where
  pin : GpioPin
  number : Nat
  chip : Nat
deriving DecidableEq, Repr

/-- The pin as its member functions find it, with the chip it points to. -/
def PinEntry.loaded (entry : PinEntry) (chip : ChipEntry) : GpioPin :=
  { entry.pin with m_chip := chip.chip }

/-- The descriptors of the process and its live objects. -/
structure GpioProcess where
  descriptors : Descriptors
  chips : Nat → Option ChipEntry
  pins : Nat → Option PinEntry

namespace GpioProcess

/-- A process without objects. -/
def empty : GpioProcess where
  descriptors := ⟨Ledger.empty, 0⟩
  chips _ := none
  pins _ := none

/-- The descriptor that a chip or a pin holds, and under which grant. -/
def holds (process : GpioProcess) : Nat ⊕ Nat → Option (Int × Nat)
  | .inl chip =>
      (process.chips chip).map fun entry =>
        (entry.chip.m_fd, entry.number)
  | .inr pin =>
      (process.pins pin).map fun entry =>
        (entry.pin.m_fd, entry.number)

/-- Some pin points to the chip. -/
def Refers (process : GpioProcess) (chip : Nat) : Prop :=
  ∃ name entry, process.pins name = some entry ∧ entry.chip = chip

/-- The number of the next grant. -/
def next (process : GpioProcess) : Nat :=
  process.descriptors.ledger.next

/--
The grant that an object holds after a call: the one it held before, or the
one made during the call.
-/
def latest (process : GpioProcess) (descriptors : Descriptors)
    (number : Nat) : Nat :=
  if descriptors.ledger.next = process.next then number
  else descriptors.ledger.next - 1

/-! ## Steps -/

/-- A pointer to the chip went away, and the chip with it if it was the last. -/
inductive Collects (process : GpioProcess) (name : Nat) :
    GpioProcess → Prop where
  | needed {entry : ChipEntry}
      (lives : process.chips name = some entry)
      (pointed : entry.held = true ∨ process.Refers name) :
      process.Collects name process
  | destroyed {entry : ChipEntry} {chip : GpioChip}
      {outcome : Outcome Exception Unit} {descriptors : Descriptors}
      (lives : process.chips name = some entry)
      (unheld : entry.held = false)
      (unreferred : ¬ process.Refers name)
      (executed :
        GpioChip.destruct.Executes
          (grantingKernel entry.number entry.number)
          entry.chip process.descriptors outcome chip descriptors) :
      process.Collects name
        { process with
          descriptors := descriptors
          chips := Function.update process.chips name none }

/--
One step of the process.  The flag tells the steps that copy a descriptor
from one object to another.
-/
inductive Step (header : GpioHeader) (process : GpioProcess) :
    (copies : Bool) → GpioProcess → Prop where
  | chipConstructed {name : Nat} {path : String}
      {raw chip : GpioChip} {descriptors : Descriptors}
      (unused : process.chips name = none)
      (executed :
        (GpioChip.construct path).Executes
          (grantingKernel process.next process.next)
          raw process.descriptors (.returned ()) chip descriptors) :
      Step header process false
        { process with
          descriptors := descriptors
          chips :=
            Function.update process.chips name
              (some ⟨chip, process.next, true⟩) }
  | chipCopied {source target : Nat} {entry : ChipEntry}
      (lives : process.chips source = some entry)
      (unused : process.chips target = none) :
      Step header process true
        { process with
          chips :=
            Function.update process.chips target
              (some { entry with held := true }) }
  | chipAssigned {source target : Nat} {entry other : ChipEntry}
      (lives : process.chips source = some entry)
      (livesToo : process.chips target = some other) :
      Step header process (source ≠ target)
        { process with
          chips :=
            Function.update process.chips target
              (some
                { other with
                  chip := entry.chip
                  number := entry.number }) }
  | chipDropped {name : Nat} {entry : ChipEntry} {after : GpioProcess}
      (lives : process.chips name = some entry)
      (held : entry.held = true)
      (collects :
        Collects
          { process with
            chips :=
              Function.update process.chips name
                (some { entry with held := false }) }
          name after) :
      Step header process false after
  | pinConstructed {name chipName : Nat} {chip : ChipEntry}
      {line : BitVec 32} {label : List Byte}
      {settings : GpioPin.Attributes} {raw pin : GpioPin}
      {descriptors : Descriptors}
      (unused : process.pins name = none)
      (chipLives : process.chips chipName = some chip)
      (held : chip.held = true)
      (executed :
        (GpioPin.construct header chip.chip line label
            settings.direction settings.edge settings.bias
            settings.drive settings.invert).Executes
          (grantingKernel process.next chip.number)
          raw process.descriptors (.returned ()) pin descriptors) :
      Step header process false
        { process with
          descriptors := descriptors
          pins :=
            Function.update process.pins name
              (some ⟨pin, process.next, chipName⟩) }
  | pinFailed {chipName : Nat} {chip : ChipEntry}
      {line : BitVec 32} {label : List Byte}
      {settings : GpioPin.Attributes} {raw pin : GpioPin}
      {error : Exception} {descriptors : Descriptors}
      (chipLives : process.chips chipName = some chip)
      (held : chip.held = true)
      (executed :
        (GpioPin.construct header chip.chip line label
            settings.direction settings.edge settings.bias
            settings.drive settings.invert).Executes
          (grantingKernel process.next chip.number)
          raw process.descriptors (.threw error) pin descriptors) :
      Step header process false
        { process with descriptors := descriptors }
  | pinCopied {source target : Nat} {entry : PinEntry}
      (lives : process.pins source = some entry)
      (unused : process.pins target = none) :
      Step header process true
        { process with
          pins := Function.update process.pins target (some entry) }
  | pinAssigned {source target : Nat} {entry other : PinEntry}
      {after : GpioProcess}
      (lives : process.pins source = some entry)
      (livesToo : process.pins target = some other)
      (collects :
        Collects
          { process with
            pins := Function.update process.pins target (some entry) }
          other.chip after) :
      Step header process (source ≠ target) after
  | changed {name : Nat} {entry : PinEntry} {chip : ChipEntry}
      {change : GpioPin.Change} {outcome : Outcome Exception Unit}
      {pin : GpioPin} {descriptors : Descriptors}
      (lives : process.pins name = some entry)
      (chipLives : process.chips entry.chip = some chip)
      (executed :
        (change.perform header).Executes
          (grantingKernel entry.number chip.number)
          (entry.loaded chip) process.descriptors
          outcome pin descriptors) :
      Step header process false
        { process with
          descriptors := descriptors
          pins :=
            Function.update process.pins name
              (some
                { entry with
                  pin := pin
                  number :=
                    process.latest descriptors entry.number }) }
  | got {name : Nat} {entry : PinEntry} {chip : ChipEntry}
      {outcome : Outcome Exception GpioPin.State}
      {pin : GpioPin} {descriptors : Descriptors}
      (lives : process.pins name = some entry)
      (chipLives : process.chips entry.chip = some chip)
      (executed :
        GpioPin.get.Executes (grantingKernel entry.number chip.number)
          (entry.loaded chip) process.descriptors
          outcome pin descriptors) :
      Step header process false
        { process with descriptors := descriptors }
  | wasSet {name : Nat} {entry : PinEntry} {chip : ChipEntry}
      {value : GpioPin.State} {outcome : Outcome Exception Unit}
      {pin : GpioPin} {descriptors : Descriptors}
      (lives : process.pins name = some entry)
      (chipLives : process.chips entry.chip = some chip)
      (executed :
        (GpioPin.set value).Executes
          (grantingKernel entry.number chip.number)
          (entry.loaded chip) process.descriptors
          outcome pin descriptors) :
      Step header process false
        { process with descriptors := descriptors }
  | pinDestroyed {name : Nat} {entry : PinEntry}
      {outcome : Outcome Exception Unit} {pin : GpioPin}
      {descriptors : Descriptors} {after : GpioProcess}
      (lives : process.pins name = some entry)
      (executed :
        GpioPin.destruct.Executes
          (grantingKernel entry.number entry.number)
          entry.pin process.descriptors outcome pin descriptors)
      (collects :
        Collects
          { process with
            descriptors := descriptors
            pins := Function.update process.pins name none }
          entry.chip after) :
      Step header process false after

/-! ## The invariant -/

/--
The ledger is balanced with what the live objects hold, no call was stray,
every pin has a handle, and every pin points to a live chip.
-/
structure Sound (process : GpioProcess) : Prop where
  balanced : process.descriptors.ledger.Balanced process.holds
  noStray : process.descriptors.strays = 0
  valid : ∀ name entry,
    process.pins name = some entry → 0 ≤ entry.pin.m_fd
  wired : ∀ name entry,
    process.pins name = some entry →
      ∃ chip, process.chips entry.chip = some chip

theorem empty_sound : empty.Sound where
  balanced := by
    have nobody : empty.holds = fun _ => none := by
      funext holder
      cases holder <;> rfl
    rw [nobody]
    exact Ledger.empty_balanced
  noStray := rfl
  valid name entry lives := by cases lives
  wired name entry lives := by cases lives

theorem holds_chip
    {process : GpioProcess} {name : Nat} {entry : ChipEntry}
    (lives : process.chips name = some entry) :
    process.holds (.inl name) =
      some (entry.chip.m_fd, entry.number) := by
  simp [holds, lives]

theorem holds_pin
    {process : GpioProcess} {name : Nat} {entry : PinEntry}
    (lives : process.pins name = some entry) :
    process.holds (.inr name) =
      some (entry.pin.m_fd, entry.number) := by
  simp [holds, lives]

/-- What is held after a chip was added, changed or removed. -/
theorem holds_update_chip
    (process : GpioProcess) (descriptors : Descriptors) (name : Nat)
    (entry : Option ChipEntry) :
    holds
        { process with
          descriptors := descriptors
          chips := Function.update process.chips name entry } =
      Function.update process.holds (.inl name)
        (entry.map fun entry => (entry.chip.m_fd, entry.number)) := by
  funext holder
  cases holder with
  | inl other =>
      by_cases same : other = name
      · subst same
        simp [holds]
      · simp [holds, same]
  | inr other => simp [holds]

/-- What is held after a pin was added, changed or removed. -/
theorem holds_update_pin
    (process : GpioProcess) (descriptors : Descriptors) (name : Nat)
    (entry : Option PinEntry) :
    holds
        { process with
          descriptors := descriptors
          pins := Function.update process.pins name entry } =
      Function.update process.holds (.inr name)
        (entry.map fun entry => (entry.pin.m_fd, entry.number)) := by
  funext holder
  cases holder with
  | inl other => simp [holds]
  | inr other =>
      by_cases same : other = name
      · subst same
        simp [holds]
      · simp [holds, same]

/-! ## Steps keep the invariant -/

/-- What an object holds is open under its grant. -/
theorem Sound.under
    {process : GpioProcess} (sound : process.Sound)
    {holder : Nat ⊕ Nat} {fd : Int} {number : Nat}
    (held : process.holds holder = some (fd, number)) :
    process.descriptors.Under number fd :=
  sound.balanced.isOpen holder fd number held

/-- Closing what an object holds keeps the balance and is not stray. -/
theorem Sound.close
    {process : GpioProcess} (sound : process.Sound)
    {holder : Nat ⊕ Nat} {fd : Int} {number : Nat}
    (held : process.holds holder = some (fd, number)) :
    (process.descriptors.close number fd).ledger.Balanced
        (Function.update process.holds holder none) ∧
      (process.descriptors.close number fd).strays = 0 := by
  rw [Descriptors.close_of_under (sound.under held)]
  exact ⟨sound.balanced.close held, sound.noStray⟩

theorem Sound.collects
    {process after : GpioProcess} {name : Nat}
    (sound : process.Sound)
    (collects : process.Collects name after) : after.Sound := by
  cases collects with
  | needed lives pointed => exact sound
  | @destroyed entry chip outcome descriptors lives unheld unreferred
      executed =>
      obtain rfl :=
        (GpioChip.destruct_closes _ _ _ _).of_executes executed
      rcases sound.close (holds_chip lives) with ⟨balanced, noStray⟩
      refine ⟨?_, noStray, sound.valid, ?_⟩
      · rw [holds_update_chip]
        exact balanced
      · intro pinName pin pinLives
        rcases sound.wired pinName pin pinLives with ⟨chip, chipLives⟩
        have different : pin.chip ≠ name := fun same =>
          unreferred ⟨pinName, pin, pinLives, same⟩
        exact
          ⟨chip, (Function.update_of_ne different _ _).trans chipLives⟩

/-- A chip that replaces another keeps every pin wired. -/
theorem Sound.wired_update_chip
    {process : GpioProcess} (sound : process.Sound) (name : Nat)
    (entry : ChipEntry) {pinName : Nat} {pin : PinEntry}
    (lives : process.pins pinName = some pin) :
    ∃ chip,
      Function.update process.chips name (some entry) pin.chip =
        some chip := by
  rcases sound.wired pinName pin lives with ⟨chip, chipLives⟩
  by_cases same : pin.chip = name
  · exact ⟨entry, by rw [same, Function.update_self]⟩
  · exact ⟨chip, by rw [Function.update_of_ne same, chipLives]⟩

theorem Sound.chipConstructed
    {process : GpioProcess} (sound : process.Sound)
    {name : Nat} {chip : GpioChip} {descriptors : Descriptors}
    (unused : process.chips name = none)
    (granted : Grants process.descriptors chip.m_fd descriptors) :
    Sound
      { process with
        descriptors := descriptors
        chips :=
          Function.update process.chips name
            (some ⟨chip, process.next, true⟩) } := by
  rcases granted with ⟨_, free, rfl⟩
  have nothing : process.holds (.inl name) = none := by
    simp [holds, unused]
  refine ⟨?_, sound.noStray, sound.valid, ?_⟩
  · rw [holds_update_chip]
    exact sound.balanced.grant nothing free
  · intro pinName pin lives
    exact sound.wired_update_chip name _ lives

/-- Dropping the pointer of the caller changes nothing that is held. -/
theorem Sound.chipDropped
    {process : GpioProcess} (sound : process.Sound)
    {name : Nat} {entry : ChipEntry}
    (lives : process.chips name = some entry) :
    Sound
      { process with
        chips :=
          Function.update process.chips name
            (some { entry with held := false }) } := by
  refine ⟨?_, sound.noStray, sound.valid, ?_⟩
  · rw [holds_update_chip, Option.map_some, ← holds_chip lives,
      Function.update_eq_self]
    exact sound.balanced
  · intro pinName pin pinLives
    exact sound.wired_update_chip name _ pinLives

/-- A pin that is added or changed, and the descriptors with it. -/
theorem Sound.update_pin
    {process : GpioProcess} (sound : process.Sound) {name : Nat}
    {entry : PinEntry} {chip : ChipEntry} {descriptors : Descriptors}
    (valid : 0 ≤ entry.pin.m_fd)
    (chipLives : process.chips entry.chip = some chip)
    (balanced :
      descriptors.ledger.Balanced
        (Function.update process.holds (.inr name)
          (some (entry.pin.m_fd, entry.number))))
    (noStray : descriptors.strays = 0) :
    Sound
      { process with
        descriptors := descriptors
        pins := Function.update process.pins name (some entry) } := by
  refine ⟨?_, noStray, ?_, ?_⟩
  · rw [holds_update_pin]
    exact balanced
  · intro other found looked
    rcases Table.eq_or_of_update_some looked with rfl | older
    · exact valid
    · exact sound.valid other found older
  · intro other found looked
    rcases Table.eq_or_of_update_some looked with rfl | older
    · exact ⟨chip, chipLives⟩
    · exact sound.wired other found older

theorem Sound.pinConstructed
    {process : GpioProcess} (sound : process.Sound)
    {name chipName : Nat} {chip : ChipEntry} {pin : GpioPin}
    {descriptors : Descriptors}
    (unused : process.pins name = none)
    (chipLives : process.chips chipName = some chip)
    (granted : Grants process.descriptors pin.m_fd descriptors) :
    Sound
      { process with
        descriptors := descriptors
        pins :=
          Function.update process.pins name
            (some ⟨pin, process.next, chipName⟩) } := by
  rcases granted with ⟨valid, free, rfl⟩
  have nothing : process.holds (.inr name) = none := by
    simp [holds, unused]
  exact
    sound.update_pin valid chipLives
      (sound.balanced.grant nothing free) sound.noStray

/-- A pin and its chip hold different grants that are open. -/
theorem Sound.wiredPin
    {process : GpioProcess} (sound : process.Sound)
    {name : Nat} {entry : PinEntry} {chip : ChipEntry}
    (lives : process.pins name = some entry)
    (chipLives : process.chips entry.chip = some chip) :
    GpioPin.Wired entry.number chip.number (entry.loaded chip)
      process.descriptors where
  valid := sound.valid name entry lives
  handle := sound.under (holds_pin lives)
  chip := sound.under (holds_chip chipLives)
  apart same := by
    have held := holds_chip chipLives
    rw [← same] at held
    cases sound.balanced.alone _ _ _ _ _ (holds_pin lives) held

/-- A pin that exchanged grants holds the grant made last. -/
theorem Sound.exchanged
    {process : GpioProcess} (sound : process.Sound)
    {name : Nat} {entry : PinEntry} {chip : ChipEntry}
    {pin : GpioPin} {descriptors : Descriptors}
    (lives : process.pins name = some entry)
    (chipLives : process.chips entry.chip = some chip)
    (exchanged :
      GpioPin.Exchanges (entry.loaded chip) process.descriptors
        pin descriptors) :
    Sound
      { process with
        descriptors := descriptors
        pins :=
          Function.update process.pins name
            (some
              { entry with
                pin := pin
                number :=
                  process.latest descriptors entry.number }) } := by
  rcases exchanged with ⟨fd, wanted, valid, free, rfl, rfl⟩
  have closed := sound.balanced.close (holds_pin lives)
  have granted := closed.grant (Function.update_self _ _ _) free
  rw [Function.update_idem, Ledger.next_close] at granted
  have renumbered :
      process.latest
          { process.descriptors with
            ledger :=
              (process.descriptors.ledger.close
                (entry.loaded chip).m_fd).grant fd }
          entry.number =
        process.next := by
    simp [latest, next, Ledger.grant]
  rw [renumbered]
  exact sound.update_pin valid chipLives granted sound.noStray

/-- A pin that kept its grant. -/
theorem Sound.unchanged
    {process : GpioProcess} (sound : process.Sound)
    {name : Nat} {entry : PinEntry} {chip : ChipEntry}
    (lives : process.pins name = some entry)
    (chipLives : process.chips entry.chip = some chip) :
    Sound
      { process with
        pins :=
          Function.update process.pins name
            (some
              { entry with
                pin := entry.loaded chip
                number :=
                  process.latest process.descriptors
                    entry.number }) } := by
  have renumbered :
      process.latest process.descriptors entry.number =
        entry.number :=
    if_pos rfl
  have valid : 0 ≤ (entry.loaded chip).m_fd :=
    sound.valid name entry lives
  have same :
      Function.update process.holds (.inr name)
          (some ((entry.loaded chip).m_fd, entry.number)) =
        process.holds := by
    rw [Function.update_eq_self_iff, holds_pin lives]
    rfl
  rw [renumbered]
  exact
    sound.update_pin valid chipLives (same.symm ▸ sound.balanced)
      sound.noStray

/-- A pin that was destroyed and has closed its descriptor. -/
theorem Sound.pinDestroyed
    {process : GpioProcess} (sound : process.Sound)
    {name : Nat} {entry : PinEntry}
    (lives : process.pins name = some entry) :
    Sound
      { process with
        descriptors :=
          process.descriptors.close entry.number entry.pin.m_fd
        pins := Function.update process.pins name none } := by
  rcases sound.close (holds_pin lives) with ⟨balanced, noStray⟩
  refine ⟨?_, noStray, ?_, ?_⟩
  · rw [holds_update_pin]
    exact balanced
  · intro other found looked
    exact
      sound.valid other found
        ((Table.update_none_eq_some_iff _ _ _ _).mp looked).2
  · intro other found looked
    exact
      sound.wired other found
        ((Table.update_none_eq_some_iff _ _ _ _).mp looked).2

/-- Assigning an object to itself changes nothing. -/
theorem Sound.step
    {header : GpioHeader} {process after : GpioProcess}
    (sound : process.Sound)
    (step : process.Step header false after) : after.Sound := by
  generalize kind : false = copies at step
  cases step with
  | chipConstructed unused executed =>
      rcases (GpioChip.construct_grants _ _ _ _ _).of_executes executed with
        ⟨-, granted⟩
      exact sound.chipConstructed unused granted
  | chipCopied lives unused => cases kind
  | @chipAssigned source target entry other lives livesToo =>
      obtain rfl : source = target := by simpa using kind
      obtain rfl := Option.some.inj (lives.symm.trans livesToo)
      rw [Function.update_eq_self_iff.mpr lives.symm]
      exact sound
  | chipDropped lives held collects =>
      exact (sound.chipDropped lives).collects collects
  | pinConstructed unused chipLives held executed =>
      rcases
          (GpioPin.construct_grants (sound.under (holds_chip chipLives))
            _ _ _ _).of_executes executed with
        ⟨-, granted⟩
      exact sound.pinConstructed unused chipLives granted
  | pinFailed chipLives held executed =>
      obtain rfl :=
        (GpioPin.construct_grants (sound.under (holds_chip chipLives))
          _ _ _ _).of_executes executed
      exact sound
  | pinCopied lives unused => cases kind
  | @pinAssigned source target entry other after lives livesToo
      collects =>
      obtain rfl : source = target := by simpa using kind
      obtain rfl := Option.some.inj (lives.symm.trans livesToo)
      rw [Function.update_eq_self_iff.mpr lives.symm] at collects
      exact sound.collects collects
  | changed lives chipLives executed =>
      have wired := sound.wiredPin lives chipLives
      rcases (GpioPin.perform_exchanges wired _).of_executes executed with
        ⟨rfl, rfl⟩ | exchanged
      · exact sound.unchanged lives chipLives
      · exact sound.exchanged lives chipLives exchanged
  | got lives chipLives executed =>
      have wired := sound.wiredPin lives chipLives
      rcases (GpioPin.get_uses wired.handle).of_executes executed with ⟨-, rfl⟩
      exact sound
  | wasSet lives chipLives executed =>
      have wired := sound.wiredPin lives chipLives
      rcases (GpioPin.set_uses wired.handle _).of_executes executed with
        ⟨-, rfl⟩
      exact sound
  | pinDestroyed lives executed collects =>
      obtain rfl :=
        (GpioPin.destruct_closes _ _ _ _).of_executes executed
      exact (sound.pinDestroyed lives).collects collects

/-! ## Runs -/

/--
No grant was closed twice, what a live object holds is open under its grant,
no call acted on a descriptor that was closed or belongs to another grant,
and once all objects are gone each grant was closed.
-/
structure OwnedOnce (process : GpioProcess) : Prop where
  atMostOnce : ∀ number, process.descriptors.ledger.closes number ≤ 1
  isOpen : ∀ holder fd number,
    process.holds holder = some (fd, number) →
      process.descriptors.Under number fd
  noStray : process.descriptors.strays = 0
  allClosed : (∀ holder, process.holds holder = none) →
    ∀ number < process.next,
      process.descriptors.ledger.closes number = 1

theorem Sound.ownedOnce
    {process : GpioProcess} (sound : process.Sound) :
    process.OwnedOnce where
  atMostOnce := sound.balanced.closes_le_one
  isOpen := sound.balanced.isOpen
  noStray := sound.noStray
  allClosed nobody _ before := sound.balanced.closes_eq_one nobody before

/-- In a run without copies every descriptor is owned once. -/
theorem ownedOnce_of_no_copies
    {header : GpioHeader} {process : GpioProcess}
    (run :
      Relation.ReflTransGen
        (fun before after => Step header before false after)
        empty process) :
    process.OwnedOnce := by
  have sound : process.Sound := by
    induction run with
    | refl => exact empty_sound
    | tail _ step sound => exact sound.step step
  exact sound.ownedOnce

/-- A process with a chip. -/
def chipProcess : GpioProcess :=
  { empty with
    descriptors := empty.descriptors.grant 3
    chips := Function.update empty.chips 0 (some ⟨⟨3⟩, 0, true⟩) }

/-- A process with a chip and a pin. -/
def pinProcess : GpioProcess :=
  { chipProcess with
    descriptors := chipProcess.descriptors.grant 4
    pins :=
      Function.update chipProcess.pins 0
        (some ⟨GpioPin.inputPin, 1, 0⟩) }

/-- The pin was copied. -/
def copyProcess : GpioProcess :=
  { pinProcess with
    pins :=
      Function.update pinProcess.pins 1
        (some ⟨GpioPin.inputPin, 1, 0⟩) }

/-- The pin was copied, and the original is gone. -/
def orphanProcess : GpioProcess :=
  { copyProcess with
    descriptors := copyProcess.descriptors.close 1 4
    pins := Function.update copyProcess.pins 0 none }

theorem empty_step_chipProcess :
    empty.Step GpioPin.driveHeader false chipProcess := by
  have executed :
      (GpioChip.construct "/dev/gpiochip0").Executes
        (grantingKernel empty.next empty.next) ⟨0⟩ empty.descriptors
        (.returned ()) ⟨3⟩ (empty.descriptors.grant 3) := by
    apply Routine.Executes.call (3 : Int) ⟨by decide, rfl, rfl⟩
    exact Routine.Executes.call (0 : Int) ⟨rfl, rfl⟩ ⟨rfl, rfl, rfl⟩
  exact .chipConstructed rfl executed

theorem chipProcess_step_pinProcess :
    chipProcess.Step GpioPin.driveHeader false pinProcess := by
  have executed :
      (GpioPin.construct GpioPin.driveHeader ⟨3⟩ 17 []
          GpioPin.inputPin.attributes.direction
          GpioPin.inputPin.attributes.edge
          GpioPin.inputPin.attributes.bias
          GpioPin.inputPin.attributes.drive
          GpioPin.inputPin.attributes.invert).Executes
        (grantingKernel chipProcess.next 0) GpioPin.rawPin
        chipProcess.descriptors (.returned ()) GpioPin.inputPin
        (chipProcess.descriptors.grant 4) := by
    exact
      Routine.Executes.call ((0 : Int), (4 : Int))
        ⟨rfl, by decide, rfl, rfl⟩ ⟨rfl, rfl, rfl⟩
  exact .pinConstructed rfl rfl rfl executed

theorem pinProcess_ownedOnce : pinProcess.OwnedOnce :=
  ownedOnce_of_no_copies
    ((Relation.ReflTransGen.single empty_step_chipProcess).tail
      chipProcess_step_pinProcess)

/--
A pin is copied and the original is destroyed: the copy holds a descriptor
that was closed.
-/
theorem orphanProcess_not_ownedOnce :
    Relation.ReflTransGen
        (fun before after =>
          ∃ copies, Step GpioPin.driveHeader before copies after)
        empty orphanProcess ∧
      ¬ orphanProcess.OwnedOnce := by
  have original :
      pinProcess.pins 0 = some ⟨GpioPin.inputPin, 1, 0⟩ := rfl
  have stillThere :
      copyProcess.pins 0 = some ⟨GpioPin.inputPin, 1, 0⟩ := rfl
  have destroyed :
      GpioPin.destruct.Executes (grantingKernel 1 1) GpioPin.inputPin
        copyProcess.descriptors (.returned ()) GpioPin.inputPin
        orphanProcess.descriptors :=
    Routine.Executes.call (0 : Int) ⟨rfl, rfl⟩ ⟨rfl, rfl, rfl⟩
  constructor
  · have copies :
        pinProcess.Step GpioPin.driveHeader true copyProcess :=
      .pinCopied original rfl
    have orphans :
        copyProcess.Step GpioPin.driveHeader false orphanProcess :=
      .pinDestroyed stillThere destroyed (.needed rfl (.inl rfl))
    exact
      (((Relation.ReflTransGen.single ⟨_, empty_step_chipProcess⟩).tail
        ⟨_, chipProcess_step_pinProcess⟩).tail ⟨_, copies⟩).tail
        ⟨_, orphans⟩
  · intro owned
    have still : orphanProcess.descriptors.Under 1 4 :=
      owned.isOpen (.inr 1) 4 1 rfl
    exact absurd still (by decide)

end GpioProcess

end Periphery
