import Periphery.Bytes.DecimalText
import Periphery.Spi.Isolation

/-!
# The text of an SPI object

`operator<<` asks the four getters and inserts what they answer.  The mode
and the speed are inserted as numbers.  The type of the word length is a
character type, so the stream takes the word length for a character; and the
getter of the bit order knows only one of the two.
-/

namespace Periphery.Spi

/-- The text that `operator<<` inserts, of what the getters returned. -/
def insertion (m_fd : Int) (mode : Mode) (speed : BitVec 32)
    (bit_order : BitOrder) (bits_per_word : Byte) : List Char :=
  "SPI (fd=".toList ++ decimal m_fd ++
    ", mode=".toList ++ decimal mode.toByte.toNat ++
    ", speed=".toList ++ decimal speed.toNat ++
    ", bit_order=".toList ++
      (if bit_order = .msbFirst then "MSB first" else "LSB first").toList ++
    ", bits_per_word=".toList ++ [Char.ofNat bits_per_word.toNat] ++
    ")".toList

/-- `operator<<`, with the text that it inserts if it returns. -/
def insert : Method Spi (List Char) := do
  let spi ← Routine.self
  let mode ← Spi.mode
  let speed ← Spi.speed
  let bit_order ← Spi.bitOrder
  let bits_per_word ← Spi.bitsPerWord
  return insertion spi.m_fd mode speed bit_order bits_per_word

/-- The text for given settings. -/
def Settings.text (settings : Settings) (m_fd : Int) : List Char :=
  insertion m_fd settings.mode settings.speed .msbFirst
    settings.bitsPerWord

/-! ## Reading the text -/

theorem Mode.toByte_injective {first second : Mode}
    (same : (first.toByte.toNat : Int) = second.toByte.toNat) :
    first = second := by
  revert same
  cases first <;> cases second <;> decide

theorem byte_of_char {first second : Byte}
    (same : Char.ofNat first.toNat = Char.ofNat second.toNat) :
    first = second := by
  have code : ∀ byte : Byte,
      (Char.ofNat byte.toNat).toNat = byte.toNat := by
    decide
  apply BitVec.eq_of_toNat_eq
  rw [← code first, same, code]

/-! A comma stands before each name but the first. -/

theorem beforeMode (rest : List Char) :
    ", mode=".toList ++ rest = ',' :: (" mode=".toList ++ rest) :=
  rfl

theorem beforeSpeed (rest : List Char) :
    ", speed=".toList ++ rest = ',' :: (" speed=".toList ++ rest) :=
  rfl

theorem beforeOrder (rest : List Char) :
    ", bit_order=".toList ++ rest =
      ',' :: (" bit_order=".toList ++ rest) :=
  rfl

/-- The text gives back all that it was made of. -/
theorem insertion_inj
    {m_fd m_fd' : Int} {mode mode' : Mode} {speed speed' : BitVec 32}
    {bit_order : BitOrder} {bits_per_word bits_per_word' : Byte}
    (same :
      insertion m_fd mode speed bit_order bits_per_word =
        insertion m_fd' mode' speed' bit_order bits_per_word') :
    m_fd = m_fd' ∧ mode = mode' ∧ speed = speed' ∧
      bits_per_word = bits_per_word' := by
  have comma : Decimal.Separates ',' := ⟨by decide, rfl⟩
  unfold insertion at same
  simp only [List.append_assoc] at same
  simp only [beforeMode, beforeSpeed, beforeOrder] at same
  rcases Decimal.decimal_append_cons_inj comma
      (List.append_cancel_left same) with
    ⟨rfl, modes⟩
  rcases Decimal.decimal_append_cons_inj comma
      (List.append_cancel_left modes) with
    ⟨sameMode, speeds⟩
  rcases Decimal.decimal_append_cons_inj comma
      (List.append_cancel_left speeds) with
    ⟨sameSpeed, orders⟩
  have words :=
    List.append_cancel_left
      (List.append_cancel_left (List.append_cancel_left orders))
  refine ⟨rfl, Mode.toByte_injective sameMode, ?_, ?_⟩
  · exact BitVec.eq_of_toNat_eq (Int.ofNat.inj sameSpeed)
  · exact byte_of_char (List.cons.inj words).1

/-! ## Printing a device in use -/

/-- A getter leaves the object and the registers to the next one. -/
theorem ensures_getter
    {Value : Type} {getter : Method Spi Value} {value : Value}
    {spi : Spi} {registers : Registers}
    (answers : Answers getter spi registers value)
    (reads : getter.Ensures registerFile
      (fun _ spi' registers' => spi' = spi ∧ registers' = registers)
      spi registers)
    {Result : Type} {next : Value → Method Spi Result}
    {post : Outcome Exception Result → Spi → Registers → Prop}
    (threw : ∀ error, post (.threw error) spi registers)
    (returned : (next value).Ensures registerFile post spi registers) :
    (getter >>= next).Ensures registerFile post spi registers := by
  rw [Routine.ensures_bind, Routine.ensures_iff_forall_executes]
  rintro (answer | error) spi' registers' executed
  · obtain rfl := answers _ _ _ executed
    rcases reads.of_executes executed with ⟨rfl, rfl⟩
    exact returned
  · rcases reads.of_executes executed with ⟨rfl, rfl⟩
    exact threw error

theorem ioctlGet_reads
    {Register Value : Type} {registers registers' : Registers}
    {contents : Register} {answer : Int × Register} {spi : Spi}
    (reads : Reads registers contents answer registers')
    (decode : Register → Value) :
    (do return decode (← ioctlGet answer) : Method Spi Value).Ensures
      registerFile
      (fun _ spi' registers' => spi' = spi ∧ registers' = registers)
      spi registers' := by
  rw [Routine.ensures_bind]
  exact ioctlGet_ensures reads ⟨rfl, rfl⟩ ⟨rfl, rfl⟩

/-- The stream gets the text for the settings in the registers. -/
theorem insert_ensures
    (extra : Byte) (settings : Settings) (spi : Spi) :
    insert.Ensures registerFile
      (fun outcome _ _ => ∀ text, outcome = .returned text →
        text = settings.text spi.m_fd)
      spi (settings.stored extra) := by
  refine ensures_getter (mode_answers extra settings spi) ?_
    (fun _ => threw_answers) ?_
  · exact fun answer registers reads => ioctlGet_reads reads _
  refine ensures_getter (speed_answers extra settings spi) ?_
    (fun _ => threw_answers) ?_
  · rintro answer registers ⟨rfl, correct⟩
    exact ioctlGet_ensures ⟨rfl, correct⟩ ⟨rfl, rfl⟩ ⟨rfl, rfl⟩
  refine ensures_getter (bitOrder_answers_msbFirst spi _) ?_
    (fun _ => threw_answers) ?_
  · exact fun answer registers reads => ioctlGet_reads reads _
  refine ensures_getter (bitsPerWord_answers extra settings spi) ?_
    (fun _ => threw_answers) ?_
  · rintro answer registers ⟨rfl, correct⟩
    exact ioctlGet_ensures ⟨rfl, correct⟩ ⟨rfl, rfl⟩ ⟨rfl, rfl⟩
  rintro text ⟨⟩
  rfl

/--
The object was constructed, some setters were called on it, and this is what
was set last with success.
-/
def InUse (spi : Spi) (registers : Registers) (told : Settings) : Prop :=
  ∃ (path : String) (settings : Settings) (extra : Byte)
    (raw spi₀ : Spi) (before registers₀ : Registers)
    (history : List (Setter × Outcome Exception Unit)),
    (construct path settings.mode settings.bitOrder settings.speed
        settings.bitsPerWord extra).Executes registerFile
      raw before (.returned ()) spi₀ registers₀ ∧
    Routine.Session registerFile Setter.perform
      spi₀ registers₀ history spi registers ∧
    told = settled (settings.combined extra) history

theorem InUse.stored
    {spi : Spi} {registers : Registers} {told : Settings}
    (used : InUse spi registers told) :
    ∃ extra, registers = told.stored extra := by
  rcases used with
    ⟨path, settings, extra, raw, spi₀, before, registers₀, history,
      constructed, session, rfl⟩
  obtain rfl :=
    (construct_combines path settings extra raw before).of_executes
      constructed
  exact ⟨extra, session_stores session⟩

/--
Two objects in use, of one device or of different ones, print the same text
exactly if they have the same descriptor and were told the same mode, speed
and word length.  The bit order does not show.
-/
theorem insertions_agree_iff
    {spi spi' : Spi} {registers registers' : Registers}
    {told told' : Settings}
    (used : InUse spi registers told)
    (used' : InUse spi' registers' told')
    {text text' : List Char} {left left' : Spi}
    {after after' : Registers}
    (printed :
      insert.Executes registerFile
        spi registers (.returned text) left after)
    (printed' :
      insert.Executes registerFile
        spi' registers' (.returned text') left' after') :
    text = told.text spi.m_fd ∧
      (text = text' ↔
        spi.m_fd = spi'.m_fd ∧ told.mode = told'.mode ∧
          told.speed = told'.speed ∧
          told.bitsPerWord = told'.bitsPerWord) := by
  rcases used.stored with ⟨extra, rfl⟩
  rcases used'.stored with ⟨extra', rfl⟩
  obtain rfl :=
    (insert_ensures extra told spi).of_executes printed _ rfl
  obtain rfl :=
    (insert_ensures extra' told' spi').of_executes printed' _ rfl
  refine ⟨rfl, insertion_inj, ?_⟩
  rintro ⟨m_fd, mode, speed, bitsPerWord⟩
  rw [Settings.text, m_fd, mode, speed, bitsPerWord]
  rfl

/-! ## Two bit orders, one text -/

/-- The device of `megahertz` after its bit order was set. -/
def lsbFirstRegisters : Registers := ⟨SPI_LSB_FIRST, 1000000, 8⟩

theorem megahertz_inUse : InUse ⟨3⟩ (megahertz.stored 0) megahertz :=
  ⟨"/dev/spi1.1", megahertz, 0, ⟨-1⟩, ⟨3⟩, ⟨0, 0, 0⟩,
    megahertz.stored 0, [], construct_megahertz, .start, rfl⟩

theorem lsbFirst_inUse :
    InUse ⟨3⟩ lsbFirstRegisters
      { megahertz with bitOrder := .lsbFirst } := by
  have executed :
      (Setter.perform (.bitOrder .lsbFirst)).Executes registerFile
        ⟨3⟩ (megahertz.stored 0) (.returned ()) ⟨3⟩
        lsbFirstRegisters := by
    apply Routine.Executes.call (0 : Int) (.inr ⟨by decide, rfl⟩)
    exact ⟨rfl, rfl, rfl⟩
  exact
    ⟨"/dev/spi1.1", megahertz, 0, ⟨-1⟩, ⟨3⟩, ⟨0, 0, 0⟩,
      megahertz.stored 0, [(.bitOrder .lsbFirst, .returned ())],
      construct_megahertz, .call .start executed, rfl⟩

theorem megahertz_prints :
    insert.Executes registerFile ⟨3⟩ (megahertz.stored 0)
      (.returned (megahertz.text 3)) ⟨3⟩ (megahertz.stored 0) := by
  apply Routine.Executes.call ((0 : Int), (0 : Byte)) ⟨rfl, fun _ => rfl⟩
  apply Routine.Executes.call ((0 : Int), (1000000 : BitVec 32))
    ⟨rfl, fun _ => rfl⟩
  apply Routine.Executes.call ((0 : Int), (0 : Byte)) ⟨rfl, fun _ => rfl⟩
  apply Routine.Executes.call ((0 : Int), (8 : Byte)) ⟨rfl, fun _ => rfl⟩
  exact ⟨rfl, rfl, rfl⟩

theorem lsbFirst_prints :
    insert.Executes registerFile ⟨3⟩ lsbFirstRegisters
      (.returned (megahertz.text 3)) ⟨3⟩ lsbFirstRegisters := by
  apply Routine.Executes.call ((0 : Int), (8 : Byte)) ⟨rfl, fun _ => rfl⟩
  apply Routine.Executes.call ((0 : Int), (1000000 : BitVec 32))
    ⟨rfl, fun _ => rfl⟩
  apply Routine.Executes.call ((0 : Int), (1 : Byte)) ⟨rfl, fun _ => rfl⟩
  apply Routine.Executes.call ((0 : Int), (8 : Byte)) ⟨rfl, fun _ => rfl⟩
  exact ⟨rfl, rfl, rfl⟩

/-- So the text does not say that the least significant bit comes first. -/
theorem lsbFirst_not_printed :
    ({ megahertz with bitOrder := .lsbFirst } : Settings).text 3 =
      megahertz.text 3 := by
  have agree :=
    insertions_agree_iff lsbFirst_inUse megahertz_inUse lsbFirst_prints
      megahertz_prints
  exact agree.1.symm

end Periphery.Spi
