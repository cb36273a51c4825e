import Mathlib.Data.List.Induction
import Periphery.Spi.Settings

/-!
# What the setters leave alone

The extra flags of the constructor may name any bits of the mode byte, those
of the mode and of the bit order included.  So the byte that the constructor
writes stands for settings of its own.  From there on each setter replaces its
own bits and leaves all others, which is why setters of different attributes
commute.
-/

namespace Periphery.Spi

/-! ## Decoding the mode byte -/

/-- The bit order that a mode byte stands for. -/
def BitOrder.ofByte (data8 : Byte) : BitOrder :=
  if data8 &&& SPI_LSB_FIRST = 0 then .msbFirst else .lsbFirst

theorem toByte_ofByte_mode (data8 : Byte) :
    (Mode.ofByte (data8 &&& (SPI_CPOL ||| SPI_CPHA))).toByte =
      data8 &&& (SPI_CPOL ||| SPI_CPHA) := by
  revert data8
  decide

theorem toByte_ofByte_bitOrder (data8 : Byte) :
    (BitOrder.ofByte data8).toByte = data8 &&& SPI_LSB_FIRST := by
  revert data8
  decide

/-- A mode byte consists of its mode, its bit order and the other bits. -/
theorem modeByte_ofByte (data8 : Byte) :
    modeByte (.ofByte (data8 &&& (SPI_CPOL ||| SPI_CPHA)))
        (.ofByte data8) data8 =
      data8 := by
  have every :
      SPI_CPOL ||| SPI_CPHA ||| SPI_LSB_FIRST ||| ~~~ownBits =
        BitVec.allOnes 8 := by
    decide
  rw [modeByte, toByte_ofByte_mode, toByte_ofByte_bitOrder,
    ← BitVec.and_or_distrib_left, ← BitVec.and_or_distrib_left, every,
    BitVec.and_allOnes]

/-- Extra flags count only with the bits that are not settings. -/
theorem modeByte_congr
    (mode : Mode) (bitOrder : BitOrder) {extra other : Byte}
    (same : extra &&& ~~~ownBits = other &&& ~~~ownBits) :
    modeByte mode bitOrder extra = modeByte mode bitOrder other := by
  rw [modeByte, same, modeByte]

theorem modeByte_and_ownBits_compl
    (mode : Mode) (bitOrder : BitOrder) (extra : Byte) :
    modeByte mode bitOrder extra &&& ~~~ownBits = extra &&& ~~~ownBits := by
  have modeBits : mode.toByte &&& ~~~ownBits = 0#8 := by
    cases mode <;> decide
  have orderBit : bitOrder.toByte &&& ~~~ownBits = 0#8 := by
    cases bitOrder <;> decide
  rw [modeByte_and, BitVec.and_self, modeBits, orderBit, BitVec.or_self,
    BitVec.zero_or]

theorem modeByte_and_lsbFirst
    (mode : Mode) (bitOrder : BitOrder) (extra : Byte) :
    modeByte mode bitOrder extra &&& SPI_LSB_FIRST = bitOrder.toByte := by
  have others : ~~~ownBits &&& SPI_LSB_FIRST = 0 := by decide
  rw [modeByte_and, others]
  cases mode <;> cases bitOrder <;> simp <;> decide

/-! ## The constructor -/

/-- The combined flags: those of the mode, of the bit order, and extra. -/
def Settings.flags (settings : Settings) (extra : Byte) : Byte :=
  settings.mode.toByte ||| settings.bitOrder.toByte ||| extra

theorem initialFlags_eq_flags (settings : Settings) (extra : Byte) :
    initialFlags settings.mode settings.bitOrder extra =
      settings.flags extra := by
  unfold initialFlags Settings.flags
  cases settings.bitOrder <;> rfl

/-- The settings with the bits of the constructor's combined flags. -/
def Settings.combined (settings : Settings) (extra : Byte) : Settings :=
  let flags := settings.flags extra
  { settings with
    mode := .ofByte (flags &&& (SPI_CPOL ||| SPI_CPHA))
    bitOrder := .ofByte flags }

/-- Extra flags add no other bits of their own to the combined flags. -/
theorem Settings.flags_and_ownBits_compl
    (settings : Settings) (extra : Byte) :
    settings.flags extra &&& ~~~ownBits = extra &&& ~~~ownBits := by
  have modeBits : settings.mode.toByte &&& ~~~ownBits = 0#8 := by
    cases settings.mode <;> decide
  have orderBit : settings.bitOrder.toByte &&& ~~~ownBits = 0#8 := by
    cases settings.bitOrder <;> decide
  rw [Settings.flags, BitVec.and_or_distrib_right,
    BitVec.and_or_distrib_right, modeBits, orderBit, BitVec.or_self,
    BitVec.zero_or]

theorem initialFlags_eq_combined (settings : Settings) (extra : Byte) :
    initialFlags settings.mode settings.bitOrder extra =
      modeByte (settings.combined extra).mode
        (settings.combined extra).bitOrder extra := by
  rw [initialFlags_eq_flags,
    ← modeByte_congr _ _ (settings.flags_and_ownBits_compl extra)]
  exact (modeByte_ofByte _).symm

/-- A constructor that returns stores the combined settings. -/
theorem construct_combines
    (path : String) (settings : Settings) (extra : Byte)
    (raw : Spi) (registers : Registers) :
    (construct path settings.mode settings.bitOrder settings.speed
        settings.bitsPerWord extra).Ensures registerFile
      (Installs extra (settings.combined extra)) raw registers :=
  construct_installs path settings
    (initialFlags_eq_combined settings extra) raw registers

/-! ## Single calls -/

/-- Setters throw one exception only, and keep the object as it is. -/
theorem perform_outcome
    (setter : Setter) (spi : Spi) (registers : Registers) :
    setter.perform.Ensures registerFile
      (fun outcome spi' _ =>
        spi' = spi ∧
          (outcome = .returned () ∨ outcome = .threw badAddress))
      spi registers := by
  cases setter <;>
    simp [Setter.perform, setMode, setBitOrder, setSpeed,
      setBitsPerWord, sysIoctl, ioctlGet, ioctlWithThrow]

/-- Every setter may succeed. -/
theorem perform_returns
    (extra : Byte) (settings : Settings) (setter : Setter) (spi : Spi) :
    setter.perform.Executes registerFile
      spi (settings.stored extra) (.returned ())
      spi ((setter.apply settings).stored extra) := by
  have zero : (0 : Int) ≤ 0 := Int.le_refl 0
  cases setter with
  | mode value =>
      apply Routine.Executes.call ((0 : Int), (settings.stored extra).mode)
        ⟨rfl, fun _ => rfl⟩
      apply Routine.Executes.call (0 : Int) (.inr ⟨zero, rfl⟩)
      refine ⟨rfl, rfl, ?_⟩
      simp only [Settings.stored, Setter.apply, modeByte_replace_mode]
  | bitOrder value =>
      apply Routine.Executes.call (0 : Int) (.inr ⟨zero, rfl⟩)
      refine ⟨rfl, rfl, ?_⟩
      simp only [Settings.stored, Setter.apply,
        modeByte_replace_lsbFirst]
  | speed value =>
      apply Routine.Executes.call (0 : Int) (.inr ⟨zero, rfl⟩)
      exact ⟨rfl, rfl, rfl⟩
  | bitsPerWord value =>
      apply Routine.Executes.call (0 : Int) (.inr ⟨zero, rfl⟩)
      exact ⟨rfl, rfl, rfl⟩

/-- Every setter may fail. -/
theorem perform_throws
    (registers : Registers) (setter : Setter) (spi : Spi) :
    setter.perform.Executes registerFile
      spi registers (.threw badAddress) spi registers := by
  have negative : (-1 : Int) < 0 := by decide
  cases setter with
  | mode value =>
      apply Routine.Executes.call ((-1 : Int), (0 : Byte))
        ⟨rfl, fun _ => by contradiction⟩
      exact ⟨rfl, rfl, rfl⟩
  | bitOrder value =>
      apply Routine.Executes.call (-1 : Int) (.inl ⟨negative, rfl⟩)
      exact ⟨rfl, rfl, rfl⟩
  | speed value =>
      apply Routine.Executes.call (-1 : Int) (.inl ⟨negative, rfl⟩)
      exact ⟨rfl, rfl, rfl⟩
  | bitsPerWord value =>
      apply Routine.Executes.call (-1 : Int) (.inl ⟨negative, rfl⟩)
      exact ⟨rfl, rfl, rfl⟩

/-- What a call does to a device with given settings, and no more. -/
theorem perform_executes_iff
    (extra : Byte) (settings : Settings) (setter : Setter)
    (spi spi' : Spi) (registers : Registers)
    (outcome : Outcome Exception Unit) :
    setter.perform.Executes registerFile
        spi (settings.stored extra) outcome spi' registers ↔
      spi' = spi ∧
        (outcome = .returned () ∨ outcome = .threw badAddress) ∧
        registers = (settings.after (setter, outcome)).stored extra := by
  constructor
  · intro executed
    rcases (perform_outcome setter spi _).of_executes executed with
      ⟨same, ended⟩
    refine ⟨same, ended, ?_⟩
    have stored :=
      (perform_ensures extra settings setter spi).of_executes executed
    rcases ended with rfl | rfl
    · exact stored
    · exact stored
  · rintro ⟨rfl, rfl | rfl, rfl⟩
    · exact perform_returns extra settings setter spi'
    · exact perform_throws _ setter spi'

/-! ## Runs -/

/-- What a run of setters does, and no more. -/
theorem session_iff
    (extra : Byte) (settings : Settings) (spi₀ spi : Spi)
    (registers : Registers)
    (history : List (Setter × Outcome Exception Unit)) :
    Routine.Session registerFile Setter.perform
        spi₀ (settings.stored extra) history spi registers ↔
      spi = spi₀ ∧
        (∀ call ∈ history,
          call.2 = .returned () ∨ call.2 = .threw badAddress) ∧
        registers = (settled settings history).stored extra := by
  constructor
  · intro session
    induction session with
    | start =>
        exact ⟨rfl, fun _ member => absurd member (List.not_mem_nil), rfl⟩
    | call _ executed induction =>
        rcases induction with ⟨rfl, ended, rfl⟩
        rcases (perform_executes_iff ..).mp executed with
          ⟨rfl, last, rfl⟩
        refine ⟨rfl, fun call member => ?_, by rw [settled_append]⟩
        rcases List.mem_append.mp member with before | now
        · exact ended call before
        · obtain rfl := List.mem_singleton.mp now
          exact last
  · rintro ⟨rfl, ended, rfl⟩
    induction history using List.reverseRecOn with
    | nil => exact .start
    | append_singleton history call induction =>
        rw [settled_append]
        apply Routine.Session.call
        · exact
            induction fun call member =>
              ended call (List.mem_append_left _ member)
        · apply (perform_executes_iff ..).mpr
          exact
            ⟨rfl, ended call (List.mem_append_right _ (.head _)), rfl⟩

/-- What a setter sets. -/
inductive Attribute where
  | mode
  | bitOrder
  | speed
  | bitsPerWord
deriving DecidableEq, Repr

def Setter.attribute : Setter → Attribute
  | .mode _ => .mode
  | .bitOrder _ => .bitOrder
  | .speed _ => .speed
  | .bitsPerWord _ => .bitsPerWord

theorem Setter.apply_comm
    (settings : Settings) {first second : Setter}
    (different : first.attribute ≠ second.attribute) :
    second.apply (first.apply settings) =
      first.apply (second.apply settings) := by
  cases first <;> cases second <;>
    first
    | rfl
    | exact absurd rfl different

/-- Calls on different attributes commute, however they end. -/
theorem Settings.after_comm
    (settings : Settings) {first second : Setter × Outcome Exception Unit}
    (different : first.1.attribute ≠ second.1.attribute) :
    (settings.after first).after second =
      (settings.after second).after first := by
  rcases first with ⟨first, (_ | _)⟩ <;>
    rcases second with ⟨second, (_ | _)⟩
  · exact Setter.apply_comm settings different
  · rfl
  · rfl
  · rfl

theorem settled_swap
    (settings : Settings)
    (earlier later : List (Setter × Outcome Exception Unit))
    {first second : Setter × Outcome Exception Unit}
    (different : first.1.attribute ≠ second.1.attribute) :
    settled settings (earlier ++ first :: second :: later) =
      settled settings (earlier ++ second :: first :: later) := by
  simp only [settled, List.foldl_append, List.foldl_cons,
    Settings.after_comm _ different]

/-- The registers hold these settings, and otherwise the extra flags. -/
structure Holds (settings : Settings) (extra : Byte)
    (registers : Registers) : Prop where
  foreign :
    registers.mode &&& ~~~ownBits = extra &&& ~~~ownBits
  clock :
    registers.mode &&& (SPI_CPOL ||| SPI_CPHA) = settings.mode.toByte
  order :
    registers.mode &&& SPI_LSB_FIRST = settings.bitOrder.toByte
  speed : registers.speed = settings.speed
  bitsPerWord : registers.bitsPerWord = settings.bitsPerWord

theorem holds_stored (settings : Settings) (extra : Byte) :
    Holds settings extra (settings.stored extra) where
  foreign := modeByte_and_ownBits_compl _ _ _
  clock := modeByte_and_mode _ _ _
  order := modeByte_and_lsbFirst _ _ _
  speed := rfl
  bitsPerWord := rfl

/--
For every constructor that returns, with any extra flags, and every later run
of setters: each attribute holds what was last set with success, or else what
the constructor's combined flags say, and all other bits are those of the
extra flags; a setter that throws leaves all registers; and neighbouring calls
on different attributes can be exchanged.
-/
theorem setters_touch_own_bits
    {path : String} {settings : Settings} {extra : Byte}
    {raw spi₀ spi : Spi} {before registers₀ registers : Registers}
    {history : List (Setter × Outcome Exception Unit)}
    (constructed :
      (construct path settings.mode settings.bitOrder settings.speed
          settings.bitsPerWord extra).Executes registerFile
        raw before (.returned ()) spi₀ registers₀)
    (session :
      Routine.Session registerFile Setter.perform
        spi₀ registers₀ history spi registers) :
    Holds (settled (settings.combined extra) history) extra registers ∧
      (∀ (setter : Setter) error spi' registers',
        setter.perform.Executes registerFile
            spi registers (.threw error) spi' registers' →
          registers' = registers) ∧
      ∀ (earlier later : List (Setter × Outcome Exception Unit))
        (first second : Setter × Outcome Exception Unit) spi' registers',
        first.1.attribute ≠ second.1.attribute →
          (Routine.Session registerFile Setter.perform spi₀ registers₀
              (earlier ++ first :: second :: later) spi' registers' ↔
            Routine.Session registerFile Setter.perform spi₀ registers₀
              (earlier ++ second :: first :: later) spi' registers') := by
  obtain rfl :=
    (construct_combines path settings extra raw before).of_executes
      constructed
  rcases (session_iff ..).mp session with ⟨rfl, _, rfl⟩
  refine ⟨holds_stored _ _, ?_, ?_⟩
  · intro setter error spi' registers' executed
    exact ((perform_executes_iff ..).mp executed).2.2
  · intro earlier later first second spi' registers' different
    rw [session_iff, session_iff, settled_swap _ _ _ different]
    simp only [List.mem_append, List.mem_cons, or_left_comm]

/-! ## Extra flags that set the bit order -/

/-- The constructor with the bits `0x28` as extra flags. -/
theorem construct_flagged :
    (construct "/dev/spi1.1" .zero .msbFirst 1000000 8
        0x28).Executes registerFile
      ⟨-1⟩ ⟨0, 0, 0⟩ (.returned ()) ⟨3⟩
      ((megahertz.combined 0x28).stored 0x28) := by
  apply Routine.Executes.call (3 : Int) rfl
  apply Routine.Executes.call (0 : Int) (.inr ⟨by decide, rfl⟩)
  apply Routine.Executes.call (0 : Int) (.inr ⟨by decide, rfl⟩)
  apply Routine.Executes.call (0 : Int) (.inr ⟨by decide, rfl⟩)
  exact ⟨rfl, rfl, rfl⟩

/-- The extra flags keep their bits and give the bit order. -/
theorem flagged_holds :
    Holds ⟨.three, .lsbFirst, 1000000, 8⟩ 0x28 ⟨0x2b, 1000000, 8⟩ :=
  (@setters_touch_own_bits "/dev/spi1.1" megahertz 0x28 ⟨-1⟩ ⟨3⟩ ⟨3⟩
    ⟨0, 0, 0⟩ ((megahertz.combined 0x28).stored 0x28)
    ⟨0x2b, 1000000, 8⟩ [(.mode .three, .returned ())]
    construct_flagged
    (.call .start
      (perform_returns 0x28 (megahertz.combined 0x28) (.mode .three)
        ⟨3⟩))).1

end Periphery.Spi
