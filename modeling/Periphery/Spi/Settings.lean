import Periphery.Routine.Session
import Periphery.Spi.RegisterFile

/-!
# Settings of an SPI device

A caller of an `Spi` object has four settings in mind: each is the value
last set with success, or the argument of the constructor.  Over any session
of setters the registers of the device hold exactly these settings, and the
getters report all of them but one bit order.
-/

namespace Periphery.Spi

/-! ## Settings -/

/-- The four attributes that a caller sets. -/
structure Settings where
  mode : Mode
  bitOrder : BitOrder
  speed : BitVec 32
  bitsPerWord : Byte
deriving DecidableEq, Repr

/-- A call of one of the four setters. -/
inductive Setter where
  | mode (value : Mode)
  | bitOrder (value : BitOrder)
  | speed (value : BitVec 32)
  | bitsPerWord (value : Byte)
deriving DecidableEq, Repr

/-- The member function that a call runs. -/
def Setter.perform : Setter → Method Spi Unit
  | .mode value => setMode value
  | .bitOrder value => setBitOrder value
  | .speed value => setSpeed value
  | .bitsPerWord value => setBitsPerWord value

/-- The settings after a call that succeeded. -/
def Setter.apply (settings : Settings) : Setter → Settings
  | .mode value => { settings with mode := value }
  | .bitOrder value => { settings with bitOrder := value }
  | .speed value => { settings with speed := value }
  | .bitsPerWord value => { settings with bitsPerWord := value }

/-- The settings after a call with the given outcome. -/
def Settings.after (settings : Settings) :
    Setter × Outcome Exception Unit → Settings
  | (setter, .returned _) => setter.apply settings
  | (_, .threw _) => settings

/-- The last value of each attribute that was set with success. -/
def settled (initial : Settings)
    (history : List (Setter × Outcome Exception Unit)) : Settings :=
  history.foldl Settings.after initial

@[simp]
theorem settled_append
    (initial : Settings)
    (history : List (Setter × Outcome Exception Unit))
    (call : Setter × Outcome Exception Unit) :
    settled initial (history ++ [call]) =
      (settled initial history).after call := by
  simp [settled]

/-- The registers of a device with these settings and extra flags. -/
def Settings.stored (settings : Settings) (extra : Byte) : Registers where
  mode := modeByte settings.mode settings.bitOrder extra
  speed := settings.speed
  bitsPerWord := settings.bitsPerWord

/-! ## Constructor and setters -/

/-- A call with this effect stores what it set, unless it throws. -/
def Stores (extra : Byte) (settings written : Settings) :
    Outcome Exception Unit → Spi → Registers → Prop
  | .returned _, _, registers => registers = written.stored extra
  | .threw _, _, registers => registers = settings.stored extra

theorem ioctlWithThrow_ensures
    {extra : Byte} {settings written : Settings}
    {stored registers : Registers} {error : Int}
    (writes :
      Writes (settings.stored extra) stored error registers)
    (same : stored = written.stored extra)
    (spi : Spi) :
    (ioctlWithThrow error).Ensures registerFile
      (Stores extra settings written) spi registers := by
  rcases writes with ⟨failed, rfl⟩ | ⟨succeeded, rfl⟩
  · simp [ioctlWithThrow, failed, Stores]
  · have accepted : ¬ error < 0 := by omega
    simp [ioctlWithThrow, accepted, Stores, same]

/-- What is left after a request that reads. -/
theorem ioctlGet_ensures
    {Register : Type} {registers registers' : Registers}
    {contents : Register} {answer : Int × Register}
    {post : Outcome Exception Register → Spi → Registers → Prop}
    {spi : Spi}
    (reads : Reads registers contents answer registers')
    (threw : post (.threw badAddress) spi registers)
    (returned : post (.returned contents) spi registers) :
    (ioctlGet answer).Ensures registerFile post spi registers' := by
  rcases reads with ⟨rfl, correct⟩
  by_cases failed : answer.1 < 0
  · simpa [ioctlGet, failed] using threw
  · rw [← correct (by omega)] at returned
    simpa [ioctlGet, failed] using returned

theorem setMode_ensures
    (extra : Byte) (settings : Settings) (value : Mode) (spi : Spi) :
    (setMode value).Ensures registerFile
      (Stores extra settings ((Setter.mode value).apply settings))
      spi (settings.stored extra) := by
  simp only [setMode, sysIoctl, Routine.ensures_bind,
    Routine.ensures_self, Routine.ensures_call, Routine.ensures_done,
    Routine.afterwards_returned]
  intro answer registers reads
  refine ioctlGet_ensures reads rfl ?_
  intro error registers' writes
  apply ioctlWithThrow_ensures writes
  simp only [Settings.stored, Setter.apply, modeByte_replace_mode]

theorem setBitOrder_ensures
    (extra : Byte) (settings : Settings) (value : BitOrder)
    (spi : Spi) :
    (setBitOrder value).Ensures registerFile
      (Stores extra settings ((Setter.bitOrder value).apply settings))
      spi (settings.stored extra) := by
  intro error registers writes
  apply ioctlWithThrow_ensures writes
  simp only [Settings.stored, Setter.apply, modeByte_replace_lsbFirst]

/-- A setter that returns has stored its value and nothing else. -/
theorem perform_ensures
    (extra : Byte) (settings : Settings) (setter : Setter)
    (spi : Spi) :
    setter.perform.Ensures registerFile
      (Stores extra settings (setter.apply settings))
      spi (settings.stored extra) := by
  cases setter with
  | mode value => exact setMode_ensures extra settings value spi
  | bitOrder value => exact setBitOrder_ensures extra settings value spi
  | speed value =>
      intro error registers writes
      exact ioctlWithThrow_ensures writes rfl spi
  | bitsPerWord value =>
      intro error registers writes
      exact ioctlWithThrow_ensures writes rfl spi

/-- A constructor with this effect stores its settings if it returns. -/
def Installs (extra : Byte) (settings : Settings) :
    Outcome Exception Unit → Spi → Registers → Prop
  | .returned _, _, registers => registers = settings.stored extra
  | .threw _, _, _ => True

/-- The constructor stores the mode and bit order that its flags stand for. -/
theorem construct_installs
    (path : String) (settings : Settings) {extra : Byte}
    {mode : Mode} {bitOrder : BitOrder}
    (flags :
      initialFlags settings.mode settings.bitOrder extra =
        modeByte mode bitOrder extra)
    (raw : Spi) (registers : Registers) :
    (construct path settings.mode settings.bitOrder settings.speed
        settings.bitsPerWord extra).Ensures registerFile
      (Installs extra
        { settings with mode := mode, bitOrder := bitOrder })
      raw registers := by
  simp only [construct, configure, sysOpen, sysIoctl, sysClose,
    Routine.ensures_bind, Routine.ensures_update,
    Routine.ensures_call, Routine.ensures_done, Routine.ensures_ite,
    Routine.ensures_raise, Routine.ensures_pure,
    Routine.afterwards_returned, Routine.afterwards_threw,
    registerFile, Installs]
  rintro fd _ rfl
  refine ⟨fun _ => trivial, fun _ => ?_⟩
  rintro error _ (⟨failed, rfl⟩ | ⟨accepted, rfl⟩)
  · exact
      ⟨fun _ _ _ _ => trivial, fun valid => absurd failed valid⟩
  refine ⟨fun _ _ _ _ => trivial, fun _ => ?_⟩
  rintro error _ (⟨failed, rfl⟩ | ⟨accepted, rfl⟩)
  · exact
      ⟨fun _ _ _ _ => trivial, fun valid => absurd failed valid⟩
  refine ⟨fun _ _ _ _ => trivial, fun _ => ?_⟩
  rintro error _ (⟨failed, rfl⟩ | ⟨accepted, rfl⟩)
  · exact
      ⟨fun _ _ _ _ => trivial, fun valid => absurd failed valid⟩
  refine ⟨fun _ _ _ _ => trivial, fun _ => ?_⟩
  rw [flags]
  rfl

theorem construct_ensures
    (path : String) (settings : Settings) {extra : Byte}
    (clear : extra &&& ownBits = 0)
    (raw : Spi) (registers : Registers) :
    (construct path settings.mode settings.bitOrder settings.speed
        settings.bitsPerWord extra).Ensures registerFile
      (Installs extra settings) raw registers :=
  construct_installs path settings (initialFlags_eq_modeByte _ _ clear)
    raw registers

/-- Throughout a session the registers hold the settled settings. -/
theorem session_stores
    {extra : Byte} {settings : Settings} {spi₀ spi : Spi}
    {registers : Registers}
    {history : List (Setter × Outcome Exception Unit)}
    (session :
      Routine.Session registerFile Setter.perform
        spi₀ (settings.stored extra) history spi registers) :
    registers = (settled settings history).stored extra := by
  apply session.invariant
    (motive := fun history _ registers =>
      registers = (settled settings history).stored extra) rfl
  rintro history spi _ setter rfl
  apply (perform_ensures extra (settled settings history) setter
    spi).mono
  rintro (value | error) spi' registers' stored
  · rw [settled_append]
    exact stored
  · rw [settled_append]
    exact stored

/-! ## Getters -/

/-- Every execution of a getter that returns, returns `value`. -/
def Answers {Value : Type} (getter : Method Spi Value) (spi : Spi)
    (registers : Registers) (value : Value) : Prop :=
  ∀ answer spi' registers',
    getter.Executes registerFile
        spi registers (.returned answer) spi' registers' →
      answer = value

/-- The four getters answer the given settings. -/
structure Reports (spi : Spi) (registers : Registers)
    (settings : Settings) : Prop where
  mode : Answers Spi.mode spi registers settings.mode
  bitOrder : Answers Spi.bitOrder spi registers settings.bitOrder
  speed : Answers Spi.speed spi registers settings.speed
  bitsPerWord :
    Answers Spi.bitsPerWord spi registers settings.bitsPerWord

/-- A getter that reads a register and decodes its contents. -/
theorem Answers.of_ensures
    {Value : Type} {getter : Method Spi Value} {spi : Spi}
    {registers : Registers} {value : Value}
    (ensured :
      getter.Ensures registerFile
        (fun outcome _ _ =>
          ∀ answer, outcome = .returned answer → answer = value)
        spi registers) :
    Answers getter spi registers value := by
  intro answer spi' registers' executed
  exact ensured.of_executes executed answer rfl

theorem threw_answers {Value : Type} {error : Exception} {value : Value} :
    ∀ answer, Outcome.threw error = .returned answer → answer = value := by
  rintro answer ⟨⟩

theorem mode_answers
    (extra : Byte) (settings : Settings) (spi : Spi) :
    Answers Spi.mode spi (settings.stored extra) settings.mode := by
  apply Answers.of_ensures
  simp only [Spi.mode, sysIoctl, Routine.ensures_bind,
    Routine.ensures_self, Routine.ensures_call, Routine.ensures_done,
    Routine.afterwards_returned]
  intro answer registers reads
  refine ioctlGet_ensures reads threw_answers ?_
  rintro _ ⟨⟩
  rw [show (settings.stored extra).mode =
    modeByte settings.mode settings.bitOrder extra from rfl,
    modeByte_and_mode, Mode.ofByte_toByte]

theorem speed_answers
    (extra : Byte) (settings : Settings) (spi : Spi) :
    Answers Spi.speed spi (settings.stored extra) settings.speed := by
  apply Answers.of_ensures
  intro answer registers reads
  refine ioctlGet_ensures reads threw_answers ?_
  rintro _ ⟨⟩
  rfl

theorem bitsPerWord_answers
    (extra : Byte) (settings : Settings) (spi : Spi) :
    Answers Spi.bitsPerWord spi (settings.stored extra)
      settings.bitsPerWord := by
  apply Answers.of_ensures
  intro answer registers reads
  refine ioctlGet_ensures reads threw_answers ?_
  rintro _ ⟨⟩
  rfl

/--
The answer of the driver to the request for the bit order has no bit in
common with the mask of the getter.
-/
theorem bitOrder_answers_msbFirst (spi : Spi) (registers : Registers) :
    Answers Spi.bitOrder spi registers .msbFirst := by
  apply Answers.of_ensures
  simp only [Spi.bitOrder, sysIoctl, Routine.ensures_bind,
    Routine.ensures_self, Routine.ensures_call, Routine.ensures_done,
    Routine.afterwards_returned]
  intro answer registers' reads
  refine ioctlGet_ensures reads threw_answers ?_
  rintro _ ⟨⟩
  by_cases lsbFirst : registers.mode &&& SPI_LSB_FIRST ≠ 0
  · rw [if_pos lsbFirst]
    rfl
  · rw [if_neg lsbFirst]
    rfl

theorem bitOrder_executes (spi : Spi) (registers : Registers) :
    Spi.bitOrder.Executes registerFile
      spi registers (.returned .msbFirst) spi registers := by
  by_cases lsbFirst : registers.mode &&& SPI_LSB_FIRST ≠ 0
  · apply Routine.Executes.call ((0 : Int), (1 : Byte))
      ⟨rfl, fun _ => (if_pos lsbFirst).symm⟩
    exact ⟨rfl, rfl, rfl⟩
  · apply Routine.Executes.call ((0 : Int), (0 : Byte))
      ⟨rfl, fun _ => (if_neg lsbFirst).symm⟩
    exact ⟨rfl, rfl, rfl⟩

/--
For every constructor that returns and every later session of setters, the
getters report the settled settings exactly when the settled bit order is
most significant bit first.  The other three getters report theirs in any
case.
-/
theorem reports_iff_msbFirst
    {path : String} {settings : Settings} {extra : Byte}
    {raw spi₀ spi : Spi} {before registers₀ registers : Registers}
    {history : List (Setter × Outcome Exception Unit)}
    (clear : extra &&& ownBits = 0)
    (constructed :
      (construct path settings.mode settings.bitOrder settings.speed
          settings.bitsPerWord extra).Executes registerFile
        raw before (.returned ()) spi₀ registers₀)
    (session :
      Routine.Session registerFile Setter.perform
        spi₀ registers₀ history spi registers) :
    (Reports spi registers (settled settings history) ↔
        (settled settings history).bitOrder = .msbFirst) ∧
      Answers Spi.mode spi registers (settled settings history).mode ∧
      Answers Spi.speed spi registers (settled settings history).speed ∧
      Answers Spi.bitsPerWord spi registers
        (settled settings history).bitsPerWord := by
  obtain rfl :=
    (construct_ensures path settings clear raw before).of_executes
      constructed
  obtain rfl := session_stores session
  refine
    ⟨⟨?_, ?_⟩, mode_answers _ _ _, speed_answers _ _ _,
      bitsPerWord_answers _ _ _⟩
  · intro reports
    exact (reports.bitOrder _ _ _ (bitOrder_executes _ _)).symm
  · intro msbFirst
    refine
      ⟨mode_answers _ _ _, ?_, speed_answers _ _ _,
        bitsPerWord_answers _ _ _⟩
    rw [msbFirst]
    exact bitOrder_answers_msbFirst _ _

/-! ## A device that is set and read back -/

/-- The settings of a device in mode 0 at one megahertz. -/
def megahertz : Settings where
  mode := .zero
  bitOrder := .msbFirst
  speed := 1000000
  bitsPerWord := 8

theorem construct_megahertz :
    (constructOctets "/dev/spi1.1" .zero .msbFirst
        1000000).Executes registerFile
      ⟨-1⟩ ⟨0, 0, 0⟩ (.returned ()) ⟨3⟩ (megahertz.stored 0) := by
  apply Routine.Executes.call (3 : Int) rfl
  apply Routine.Executes.call (0 : Int) (.inr ⟨by decide, rfl⟩)
  apply Routine.Executes.call (0 : Int) (.inr ⟨by decide, rfl⟩)
  apply Routine.Executes.call (0 : Int) (.inr ⟨by decide, rfl⟩)
  exact ⟨rfl, rfl, rfl⟩

/-- The speed is halved, and an attempt to change the bit order fails. -/
def halving : List (Setter × Outcome Exception Unit) :=
  [(.speed 500000, .returned ()),
    (.bitOrder .lsbFirst, .threw badAddress)]

theorem megahertz_halved :
    Routine.Session registerFile Setter.perform
      ⟨3⟩ (megahertz.stored 0) halving ⟨3⟩ ⟨0, 500000, 8⟩ := by
  have slowed :
      (Setter.perform (.speed 500000)).Executes registerFile
        ⟨3⟩ (megahertz.stored 0) (.returned ()) ⟨3⟩ ⟨0, 500000, 8⟩ := by
    apply Routine.Executes.call (0 : Int) (.inr ⟨by decide, rfl⟩)
    exact ⟨rfl, rfl, rfl⟩
  have refused :
      (Setter.perform (.bitOrder .lsbFirst)).Executes registerFile
        ⟨3⟩ ⟨0, 500000, 8⟩ (.threw badAddress) ⟨3⟩ ⟨0, 500000, 8⟩ := by
    apply Routine.Executes.call (-1 : Int) (.inl ⟨by decide, rfl⟩)
    exact ⟨rfl, rfl, rfl⟩
  exact .call (.call .start slowed) refused

/-- The device then reports the new speed and the old bit order. -/
theorem megahertz_reports :
    Reports ⟨3⟩ ⟨0, 500000, 8⟩ ⟨.zero, .msbFirst, 500000, 8⟩ := by
  have reports :=
    @reports_iff_msbFirst "/dev/spi1.1" megahertz 0 ⟨-1⟩ ⟨3⟩ ⟨3⟩
      ⟨0, 0, 0⟩ (megahertz.stored 0) ⟨0, 500000, 8⟩ halving
      (by decide) construct_megahertz megahertz_halved
  exact reports.1.mpr rfl

/-- After a successful setter of the bit order, its getter is wrong. -/
theorem lsbFirst_misreported :
    (constructOctets "/dev/spi1.1" .zero .msbFirst
        1000000).Executes registerFile
      ⟨-1⟩ ⟨0, 0, 0⟩ (.returned ()) ⟨3⟩ (megahertz.stored 0) ∧
    Routine.Session registerFile Setter.perform
      ⟨3⟩ (megahertz.stored 0)
      [(.bitOrder .lsbFirst, .returned ())]
      ⟨3⟩ ⟨SPI_LSB_FIRST, 1000000, 8⟩ ∧
    ¬ Reports ⟨3⟩ ⟨SPI_LSB_FIRST, 1000000, 8⟩
      (settled megahertz [(.bitOrder .lsbFirst, .returned ())]) := by
  refine ⟨construct_megahertz, ?_, fun reports => ?_⟩
  · have executed :
        (Setter.perform (.bitOrder .lsbFirst)).Executes registerFile
          ⟨3⟩ (megahertz.stored 0) (.returned ())
          ⟨3⟩ ⟨SPI_LSB_FIRST, 1000000, 8⟩ := by
      apply Routine.Executes.call (0 : Int) (.inr ⟨by decide, rfl⟩)
      exact ⟨rfl, rfl, rfl⟩
    exact Routine.Session.start.call executed
  · have answered :=
      reports.bitOrder _ _ _ (bitOrder_executes _ _)
    exact absurd answered (by decide)

end Periphery.Spi
