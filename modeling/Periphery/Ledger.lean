import Periphery.Table

/-!
# Ledgers of grants

A resource hands out keys, takes them back and may hand them out again.  The
ledger numbers the grants, so that two grants of one key can be told apart,
and counts how often each grant was closed.

A ledger is balanced with what its holders say if each open grant has exactly
one holder.  Granting a key to a free holder and closing the key of a holder
keep the balance, and in a balanced ledger without holders every grant was
closed exactly once.
-/

/-- Numbered grants of keys. -/
structure Ledger (Key : Type) where
  /-- The number of the next grant. -/
  next : Nat
  /-- The grant behind each open key. -/
  table : Key → Option Nat
  /-- How often each grant was closed. -/
  closes : Nat → Nat

namespace Ledger

variable {Key Holder : Type}

/-- The ledger before the first grant. -/
def empty : Ledger Key where
  next := 0
  table _ := none
  closes _ := 0

/-- The ledger after `key` was granted. -/
def grant [DecidableEq Key] (ledger : Ledger Key) (key : Key) :
    Ledger Key :=
  { ledger with
    next := ledger.next + 1
    table := Function.update ledger.table key (some ledger.next) }

/-- The ledger after `key` was closed, under whatever grant it was open. -/
def close [DecidableEq Key] (ledger : Ledger Key) (key : Key) :
    Ledger Key :=
  match ledger.table key with
  | some number =>
      { ledger with
        table := Function.update ledger.table key none
        closes :=
          Function.update ledger.closes number
            (ledger.closes number + 1) }
  | none => ledger

/-- Closing a key that is open. -/
theorem close_of_granted [DecidableEq Key]
    {ledger : Ledger Key} {key : Key} {number : Nat}
    (granted : ledger.table key = some number) :
    ledger.close key =
      { ledger with
        table := Function.update ledger.table key none
        closes :=
          Function.update ledger.closes number
            (ledger.closes number + 1) } := by
  simp only [close, granted]

@[simp]
theorem next_close [DecidableEq Key] (ledger : Ledger Key) (key : Key) :
    (ledger.close key).next = ledger.next := by
  unfold close
  split
  · rfl
  · rfl

/-- Every open grant has exactly one holder, and no other was granted. -/
structure Balanced (ledger : Ledger Key)
    (holds : Holder → Option (Key × Nat)) : Prop where
  /-- What is held is open. -/
  isOpen : ∀ holder key number,
    holds holder = some (key, number) →
      ledger.table key = some number
  /-- What is open is held. -/
  covered : ∀ key number,
    ledger.table key = some number →
      ∃ holder, holds holder = some (key, number)
  /-- No grant has two holders. -/
  alone : ∀ holder other key otherKey number,
    holds holder = some (key, number) →
    holds other = some (otherKey, number) → holder = other
  /-- A grant that was made is open, or it was closed once. -/
  once : ∀ number < ledger.next,
    ledger.closes number = 0 ∧
        (∃ key, ledger.table key = some number) ∨
      ledger.closes number = 1 ∧
        ∀ key, ledger.table key ≠ some number
  /-- A grant that was not made yet is neither open nor closed. -/
  unborn : ∀ number, ledger.next ≤ number →
    ledger.closes number = 0 ∧ ∀ key, ledger.table key ≠ some number

section Balance

variable
    {ledger : Ledger Key} {holds : Holder → Option (Key × Nat)}

theorem empty_balanced :
    Balanced (empty : Ledger Key)
      (fun _ : Holder => (none : Option (Key × Nat))) where
  isOpen := nofun
  covered := nofun
  alone := nofun
  once := nofun
  unborn _ _ := ⟨rfl, nofun⟩

/-- An open grant stands behind a single key. -/
theorem Balanced.key_unique
    (balanced : ledger.Balanced holds)
    {key other : Key} {number : Nat}
    (granted : ledger.table key = some number)
    (grantedToo : ledger.table other = some number) :
    key = other := by
  rcases balanced.covered key number granted with ⟨holder, held⟩
  rcases balanced.covered other number grantedToo with ⟨holderToo, heldToo⟩
  obtain rfl := balanced.alone _ _ _ _ _ held heldToo
  exact congrArg Prod.fst (Option.some.inj (held.symm.trans heldToo))

theorem Balanced.lt_next
    (balanced : ledger.Balanced holds) {key : Key} {number : Nat}
    (granted : ledger.table key = some number) :
    number < ledger.next := by
  by_contra later
  exact (balanced.unborn number (Nat.not_lt.mp later)).2 key granted

/-- An open grant was never closed. -/
theorem Balanced.closes_eq_zero
    (balanced : ledger.Balanced holds) {key : Key} {number : Nat}
    (granted : ledger.table key = some number) :
    ledger.closes number = 0 := by
  rcases balanced.once number (balanced.lt_next granted) with
    ⟨never, _⟩ | ⟨_, gone⟩
  · exact never
  · exact absurd granted (gone key)

theorem Balanced.closes_le_one
    (balanced : ledger.Balanced holds) (number : Nat) :
    ledger.closes number ≤ 1 := by
  by_cases before : number < ledger.next
  · rcases balanced.once number before with ⟨never, _⟩ | ⟨once, _⟩
    · omega
    · omega
  · have unborn := (balanced.unborn number (Nat.not_lt.mp before)).1
    omega

/-- Without holders, every grant that was made was closed once. -/
theorem Balanced.closes_eq_one
    (balanced : ledger.Balanced holds)
    (nobody : ∀ holder, holds holder = none)
    {number : Nat} (before : number < ledger.next) :
    ledger.closes number = 1 := by
  rcases balanced.once number before with
    ⟨_, key, granted⟩ | ⟨once, _⟩
  · rcases balanced.covered key number granted with ⟨holder, held⟩
    rw [nobody holder] at held
    cases held
  · exact once

variable [DecidableEq Key] [DecidableEq Holder]

/-- Granting an unused key to a free holder keeps the balance. -/
theorem Balanced.grant
    (balanced : ledger.Balanced holds) {holder : Holder} {key : Key}
    (free : holds holder = none) (unused : ledger.table key = none) :
    (ledger.grant key).Balanced
      (Function.update holds holder (some (key, ledger.next))) where
  isOpen other otherKey number held := by
    rw [Table.update_some_eq_some_iff free] at held
    simp only [Ledger.grant, Table.update_some_eq_some_iff unused]
    rcases held with ⟨_, same⟩ | held
    · cases same
      exact .inl ⟨rfl, rfl⟩
    · exact .inr (balanced.isOpen other otherKey number held)
  covered otherKey number granted := by
    simp only [Ledger.grant, Table.update_some_eq_some_iff unused]
      at granted
    simp only [Table.update_some_eq_some_iff free]
    rcases granted with ⟨rfl, rfl⟩ | granted
    · exact ⟨holder, .inl ⟨rfl, rfl⟩⟩
    · rcases balanced.covered otherKey number granted with ⟨other, held⟩
      exact ⟨other, .inr held⟩
  alone first second key₁ key₂ number held heldToo := by
    have older {other : Holder} {otherKey : Key}
        (held : holds other = some (otherKey, number)) :
        number < ledger.next :=
      balanced.lt_next (balanced.isOpen other otherKey number held)
    rw [Table.update_some_eq_some_iff free] at held heldToo
    rcases held with ⟨rfl, same⟩ | held
    · rcases heldToo with ⟨rfl, _⟩ | heldToo
      · rfl
      · cases same
        exact absurd (older heldToo) (Nat.lt_irrefl _)
    · rcases heldToo with ⟨rfl, same⟩ | heldToo
      · cases same
        exact absurd (older held) (Nat.lt_irrefl _)
      · exact balanced.alone _ _ _ _ _ held heldToo
  once number before := by
    simp only [Ledger.grant, Table.update_some_eq_some_iff unused, ne_eq]
    rcases Nat.lt_succ_iff_lt_or_eq.mp before with older | rfl
    · rcases balanced.once number older with
        ⟨never, otherKey, granted⟩ | ⟨once, gone⟩
      · exact .inl ⟨never, otherKey, .inr granted⟩
      · refine .inr ⟨once, fun otherKey granted => ?_⟩
        rcases granted with ⟨_, rfl⟩ | granted
        · exact absurd older (Nat.lt_irrefl _)
        · exact gone otherKey granted
    · exact
        .inl
          ⟨(balanced.unborn _ (Nat.le_refl _)).1, key,
            .inl ⟨rfl, rfl⟩⟩
  unborn number later := by
    have laterToo : ledger.next ≤ number := Nat.le_of_succ_le later
    simp only [Ledger.grant, Table.update_some_eq_some_iff unused, ne_eq]
    refine ⟨(balanced.unborn number laterToo).1, ?_⟩
    rintro otherKey (⟨_, rfl⟩ | granted)
    · exact absurd later (Nat.lt_irrefl _)
    · exact (balanced.unborn number laterToo).2 otherKey granted

/-- Closing the key of its holder keeps the balance. -/
theorem Balanced.close
    (balanced : ledger.Balanced holds) {holder : Holder} {key : Key}
    {number : Nat} (held : holds holder = some (key, number)) :
    (ledger.close key).Balanced
      (Function.update holds holder none) := by
  have granted := balanced.isOpen holder key number held
  rw [close_of_granted granted]
  constructor
  case isOpen =>
    intro other otherKey otherNumber heldToo
    rcases (Table.update_none_eq_some_iff _ _ _ _).mp heldToo with
      ⟨different, heldToo⟩
    apply (Table.update_none_eq_some_iff _ _ _ _).mpr
    have grantedToo :=
      balanced.isOpen other otherKey otherNumber heldToo
    refine ⟨?_, grantedToo⟩
    rintro rfl
    obtain rfl := Option.some.inj (granted.symm.trans grantedToo)
    exact different (balanced.alone _ _ _ _ _ heldToo held)
  case covered =>
    intro otherKey otherNumber grantedToo
    rcases (Table.update_none_eq_some_iff _ _ _ _).mp grantedToo with
      ⟨different, grantedToo⟩
    rcases balanced.covered otherKey otherNumber grantedToo with
      ⟨other, heldToo⟩
    refine ⟨other, ?_⟩
    apply (Table.update_none_eq_some_iff _ _ _ _).mpr
    refine ⟨?_, heldToo⟩
    rintro rfl
    have same := Option.some.inj (held.symm.trans heldToo)
    exact different (congrArg Prod.fst same).symm
  case alone =>
    intro first second key₁ key₂ otherNumber heldFirst heldSecond
    exact
      balanced.alone _ _ _ _ _
        ((Table.update_none_eq_some_iff _ _ _ _).mp heldFirst).2
        ((Table.update_none_eq_some_iff _ _ _ _).mp heldSecond).2
  case once =>
    intro otherNumber before
    simp only [Table.update_none_eq_some_iff, ne_eq]
    by_cases same : otherNumber = number
    · subst same
      rw [Function.update_self, balanced.closes_eq_zero granted]
      refine .inr ⟨rfl, ?_⟩
      rintro otherKey ⟨different, grantedToo⟩
      exact different (balanced.key_unique grantedToo granted)
    · rw [Function.update_of_ne same]
      rcases balanced.once otherNumber before with
        ⟨never, otherKey, grantedToo⟩ | ⟨once, gone⟩
      · refine .inl ⟨never, otherKey, ?_, grantedToo⟩
        rintro rfl
        exact same (Option.some.inj (grantedToo.symm.trans granted))
      · exact .inr ⟨once, fun otherKey both => gone otherKey both.2⟩
  case unborn =>
    intro otherNumber later
    have different : otherNumber ≠ number := by
      rintro rfl
      exact (balanced.unborn _ later).2 key granted
    simp only [Table.update_none_eq_some_iff, ne_eq]
    rw [Function.update_of_ne different]
    exact
      ⟨(balanced.unborn _ later).1,
        fun otherKey both =>
          (balanced.unborn _ later).2 otherKey both.2⟩

end Balance

end Ledger
