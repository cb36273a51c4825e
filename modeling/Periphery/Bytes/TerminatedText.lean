import Mathlib.Data.List.Basic
import Mathlib.Data.List.TakeWhile

/-!
# Text that ends at a stop

A field of fixed size holds a text and is padded with a stop letter behind
it.  Reading the field up to the first stop gives the text back, and whether
the field holds a stop at all says whether there was room for the padding.
-/

namespace TerminatedText

variable {Letter : Type} {stop : Letter}

/-- A field holds a stop if there is some padding. -/
theorem stop_mem_append_replicate
    {letters : List Letter} (clean : stop ∉ letters) (padding : Nat) :
    stop ∈ letters ++ List.replicate padding stop ↔ 0 < padding := by
  rw [List.mem_append, or_iff_right clean, List.mem_replicate,
    and_iff_left rfl, Nat.pos_iff_ne_zero]

variable [DecidableEq Letter]

/-- The letters before the first stop. -/
def text (stop : Letter) (letters : List Letter) : List Letter :=
  letters.takeWhile (· ≠ stop)

theorem stop_notMem_text (letters : List Letter) :
    stop ∉ text stop letters := by
  intro member
  have different := List.mem_takeWhile_imp member
  simp at different

/-- A text in front of its padding is read back. -/
theorem text_append_replicate
    {letters : List Letter} (clean : stop ∉ letters) (padding : Nat) :
    text stop (letters ++ List.replicate padding stop) = letters := by
  have all : ∀ letter ∈ letters, decide (letter ≠ stop) = true := by
    intro letter member
    apply decide_eq_true
    rintro rfl
    exact clean member
  have none :
      (List.replicate padding stop).takeWhile (· ≠ stop) = [] := by
    cases padding with
    | zero => rfl
    | succ padding => simp [List.replicate_succ]
  rw [text, List.takeWhile_append_of_pos all, none, List.append_nil]

/-- A text that a stop ends is read back, whatever follows. -/
theorem text_append_cons
    {letters : List Letter} (clean : stop ∉ letters)
    (rest : List Letter) :
    text stop (letters ++ stop :: rest) = letters := by
  have all : ∀ letter ∈ letters, decide (letter ≠ stop) = true := by
    intro letter member
    apply decide_eq_true
    rintro rfl
    exact clean member
  rw [text, List.takeWhile_append_of_pos all,
    List.takeWhile_cons_of_neg (by simp), List.append_nil]

/-- A stop ends what comes before it. -/
theorem append_cons_inj
    {first second rest rest' : List Letter}
    (clean : stop ∉ first) (clean' : stop ∉ second)
    (same : first ++ stop :: rest = second ++ stop :: rest') :
    first = second ∧ rest = rest' := by
  have heads : first = second := by
    rw [← text_append_cons clean rest, same, text_append_cons clean']
  subst heads
  exact ⟨rfl, (List.cons.inj (List.append_cancel_left same)).2⟩

end TerminatedText
