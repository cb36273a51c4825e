import Mathlib.Tactic.Common
import Periphery.Bytes.TerminatedText

/-!
# Numbers in texts

An integer is printed in decimal, with a sign if it is negative.  The digits
give the number back, and a text in which a separator ends the number gives
back the number and what follows it.
-/

/-- An integer in decimal. -/
def decimal (number : Int) : List Char :=
  if number < 0 then '-' :: Nat.toDigits 10 (-number).toNat
  else Nat.toDigits 10 number.toNat

namespace Decimal

/-- Neither sign nor digit. -/
def Separates (mark : Char) : Prop :=
  mark ≠ '-' ∧ mark.isDigit = false

theorem not_mem_toDigits
    {mark : Char} (separates : Separates mark) (number : Nat) :
    mark ∉ Nat.toDigits 10 number := by
  intro member
  have digit :=
    Nat.isDigit_of_mem_toDigits (by decide) (by decide) member
  rw [separates.2] at digit
  cases digit

theorem not_mem_decimal
    {mark : Char} (separates : Separates mark) (number : Int) :
    mark ∉ decimal number := by
  unfold decimal
  split
  · intro member
    rcases List.mem_cons.mp member with sign | digit
    · exact separates.1 sign
    · exact not_mem_toDigits separates _ digit
  · exact not_mem_toDigits separates _

theorem toDigits_injective {first second : Nat}
    (same : Nat.toDigits 10 first = Nat.toDigits 10 second) :
    first = second := by
  have read :=
    congrArg (fun digits => Nat.ofDigitChars 10 digits 0) same
  simpa only [Nat.ofDigitChars_toDigits (by decide : 1 < 10)
    (Nat.le_refl 10)] using read

theorem sign_not_mem_toDigits (number : Nat) :
    '-' ∉ Nat.toDigits 10 number := by
  intro member
  have digit :=
    Nat.isDigit_of_mem_toDigits (by decide) (by decide) member
  exact absurd digit (by decide)

/-- Different numbers are printed differently. -/
theorem decimal_injective {first second : Int}
    (same : decimal first = decimal second) : first = second := by
  unfold decimal at same
  split at same
  · next negative =>
      split at same
      · next negative' =>
          have magnitude := toDigits_injective (List.cons.inj same).2
          omega
      · exact
          absurd (same ▸ List.mem_cons_self)
            (sign_not_mem_toDigits second.toNat)
  · next positive =>
      split at same
      · exact
          absurd (same.symm ▸ List.mem_cons_self)
            (sign_not_mem_toDigits first.toNat)
      · next positive' =>
          have magnitude := toDigits_injective same
          omega

/-- A number in front of a separator can be read back. -/
theorem decimal_append_cons_inj
    {mark : Char} (separates : Separates mark) {first second : Int}
    {rest rest' : List Char}
    (same : decimal first ++ mark :: rest = decimal second ++ mark :: rest') :
    first = second ∧ rest = rest' := by
  rcases TerminatedText.append_cons_inj (not_mem_decimal separates first)
      (not_mem_decimal separates second) same with
    ⟨numbers, tails⟩
  exact ⟨decimal_injective numbers, tails⟩

end Decimal
