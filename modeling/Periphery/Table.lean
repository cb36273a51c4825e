import Mathlib.Logic.Function.Basic

/-!
# Tables

A table is a partial function, changed by `Function.update`.  The lemmas say
what a lookup finds after an entry was added or removed.
-/

namespace Table

variable {Key Entry : Type} [DecidableEq Key]

/-- Adding an entry under a free key. -/
theorem update_some_eq_some_iff
    {table : Key → Option Entry} {key : Key}
    (free : table key = none) (entry : Entry)
    (other : Key) (found : Entry) :
    Function.update table key (some entry) other = some found ↔
      other = key ∧ found = entry ∨ table other = some found := by
  by_cases same : other = key
  · subst same
    simp [free, eq_comm]
  · simp [same]

/-- What is found after an entry was set is that entry or an older one. -/
theorem eq_or_of_update_some
    {table : Key → Option Entry} {key other : Key}
    {entry found : Entry}
    (looked :
      Function.update table key (some entry) other = some found) :
    found = entry ∨ table other = some found := by
  by_cases same : other = key
  · subst same
    rw [Function.update_self] at looked
    exact .inl (Option.some.inj looked).symm
  · rw [Function.update_of_ne same] at looked
    exact .inr looked

/-- Removing the entry under a key. -/
theorem update_none_eq_some_iff
    (table : Key → Option Entry) (key other : Key) (found : Entry) :
    Function.update table key none other = some found ↔
      other ≠ key ∧ table other = some found := by
  by_cases same : other = key
  · subst same
    simp
  · simp [same]

end Table
