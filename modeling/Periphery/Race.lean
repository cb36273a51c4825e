import Mathlib.Data.Fintype.Basic
import Mathlib.Data.Finset.Dedup
import Mathlib.Logic.Function.Basic
import Mathlib.Logic.Relation

/-!
# Races on a cell

Several parties change one cell.  Each reads the cell once and later writes
back what its change makes of the value it read; in between, other parties
read and write.  A party may also give up before it wrote.

In the end the cell holds the changes of a chain of parties, each applied to
what the one before it left.  The changes of all other parties are lost.
Every such chain comes about in some order of the reads and writes.
-/

namespace Race

variable {Party Value : Type}

/-- How far a party has come. -/
inductive Phase (Value : Type) where
  | fresh
  | holding (value : Value)
  | stored
  | gone
deriving DecidableEq, Repr

/-- The cell and the parties. -/
structure State (Party Value : Type) where
  cell : Value
  phase : Party → Phase Value

/-- Before the first read. -/
def State.start (initial : Value) : State Party Value where
  cell := initial
  phase _ := .fresh

/-- The state after a party has come to a phase. -/
def State.enter [DecidableEq Party] (state : State Party Value)
    (party : Party) (phase : Phase Value) : State Party Value :=
  { state with phase := Function.update state.phase party phase }

/-- A party reads, writes or, where parties may quit, gives up. -/
inductive Step [DecidableEq Party] (mayQuit : Prop)
    (change : Party → Value → Value)
    (state : State Party Value) : State Party Value → Prop where
  | load (party : Party) (fresh : state.phase party = .fresh) :
      Step mayQuit change state
        (state.enter party (.holding state.cell))
  | store (party : Party) {value : Value}
      (holding : state.phase party = .holding value) :
      Step mayQuit change state
        { state.enter party .stored with cell := change party value }
  | quit (party : Party) (may : mayQuit)
      (unstored : state.phase party ≠ .stored) :
      Step mayQuit change state (state.enter party .gone)

/-- Any order of reads and writes, up to any moment. -/
abbrev Runs [DecidableEq Party] (mayQuit : Prop)
    (change : Party → Value → Value) :
    State Party Value → State Party Value → Prop :=
  Relation.ReflTransGen (Step mayQuit change)

/-- The changes of a chain of parties, one after the other. -/
def chained (change : Party → Value → Value) (chain : List Party)
    (initial : Value) : Value :=
  chain.foldl (fun value party => change party value) initial

@[simp]
theorem chained_append
    (change : Party → Value → Value) (chain : List Party)
    (party : Party) (initial : Value) :
    chained change (chain ++ [party]) initial =
      change party (chained change chain initial) := by
  simp [chained]

/-! ## Where values come from -/

/-- The value is made by a chain of different parties that have stored. -/
def MadeBy (change : Party → Value → Value) (initial : Value)
    (state : State Party Value) (chain : List Party)
    (value : Value) : Prop :=
  chain.Nodup ∧ (∀ party ∈ chain, state.phase party = .stored) ∧
    value = chained change chain initial

/-- Every value around is made by a chain of parties. -/
structure Traceable (change : Party → Value → Value) (initial : Value)
    (state : State Party Value) : Prop where
  cell : ∃ chain, MadeBy change initial state chain state.cell ∧
    ((∃ party, state.phase party = .stored) → chain ≠ [])
  held : ∀ party value, state.phase party = .holding value →
    ∃ chain, MadeBy change initial state chain value

section Tracing

variable
    [DecidableEq Party] {mayQuit : Prop}
    {change : Party → Value → Value} {initial value : Value}
    {state state' : State Party Value} {party : Party}
    {chain : List Party}

/-- Parties that have stored stay so. -/
theorem MadeBy.enter
    (made : MadeBy change initial state chain value)
    (unstored : state.phase party ≠ .stored) (phase : Phase Value) :
    MadeBy change initial (state.enter party phase) chain value := by
  refine ⟨made.1, fun other member => ?_, made.2.2⟩
  have different : other ≠ party := by
    rintro rfl
    exact unstored (made.2.1 other member)
  simpa [State.enter, different] using made.2.1 other member

omit [DecidableEq Party] in
theorem traceable_start :
    Traceable change initial (.start initial : State Party Value) where
  cell := by
    refine ⟨[], ⟨List.nodup_nil, ?_, rfl⟩, ?_⟩
    · rintro _ ⟨⟩
    · rintro ⟨_, ⟨⟩⟩
  held := by
    rintro _ _ ⟨⟩

/-- A party that does not store leaves the cell as it was made. -/
theorem Traceable.enter
    (traceable : Traceable change initial state)
    (unstored : state.phase party ≠ .stored) {phase : Phase Value}
    (waits : phase ≠ .stored)
    (held : ∀ value, phase = .holding value → value = state.cell) :
    Traceable change initial (state.enter party phase) := by
  rcases traceable with ⟨⟨chain, made, nonempty⟩, others⟩
  constructor
  · refine ⟨chain, made.enter unstored phase, ?_⟩
    rintro ⟨other, stored⟩
    by_cases same : other = party
    · subst same
      exact absurd (by simpa [State.enter] using stored) waits
    · exact nonempty ⟨other, by simpa [State.enter, same] using stored⟩
  · intro other value holding
    by_cases same : other = party
    · subst same
      have entered : phase = .holding value := by
        simpa [State.enter] using holding
      rw [held value entered]
      exact ⟨chain, made.enter unstored phase⟩
    · have before : state.phase other = .holding value := by
        simpa [State.enter, same] using holding
      rcases others other value before with ⟨earlier, madeEarlier⟩
      exact ⟨earlier, madeEarlier.enter unstored phase⟩

theorem Traceable.step
    (traceable : Traceable change initial state)
    (step : Step mayQuit change state state') :
    Traceable change initial state' := by
  cases step with
  | load party fresh =>
      apply traceable.enter
      · rw [fresh]
        rintro ⟨⟩
      · rintro ⟨⟩
      · rintro _ ⟨⟩
        rfl
  | @store party value holding =>
      have unstored : state.phase party ≠ .stored := by
        rw [holding]
        rintro ⟨⟩
      rcases traceable.held party value holding with ⟨chain, made⟩
      have kept := made.enter unstored .stored
      constructor
      · refine ⟨chain ++ [party], ⟨?_, ?_, ?_⟩, fun _ => by simp⟩
        · refine
            List.nodup_append.mpr ⟨made.1, List.nodup_singleton _, ?_⟩
          rintro other member _ single rfl
          obtain rfl := List.mem_singleton.mp single
          exact unstored (made.2.1 other member)
        · intro other member
          rcases List.mem_append.mp member with before | last
          · exact kept.2.1 other before
          · obtain rfl := List.mem_singleton.mp last
            simp [State.enter]
        · rw [chained_append, ← made.2.2]
      · intro other otherValue otherHolding
        have different : other ≠ party := by
          rintro rfl
          simp [State.enter] at otherHolding
        rcases
            traceable.held other otherValue
              (by simpa [State.enter, different] using otherHolding) with
          ⟨earlier, madeEarlier⟩
        exact ⟨earlier, madeEarlier.enter unstored .stored⟩
  | quit party may unstored =>
      apply traceable.enter unstored
      · rintro ⟨⟩
      · rintro _ ⟨⟩

/-- At every moment, each value around is made by a chain of parties. -/
theorem traceable
    (run : Runs mayQuit change (.start initial) state) :
    Traceable change initial state := by
  induction run with
  | refl => exact traceable_start
  | tail _ step induction => exact induction.step step

end Tracing

/-! ## Orders that make a chain -/

section Making

variable
    [DecidableEq Party] (mayQuit : Prop)
    (change : Party → Value → Value)

/-- Parties that take turns make a chain. -/
theorem exists_turns
    (parties : List Party) (different : parties.Nodup)
    (state : State Party Value)
    (fresh : ∀ party ∈ parties, state.phase party = .fresh) :
    ∃ state', Runs mayQuit change state state' ∧
      state'.cell = chained change parties state.cell ∧
      ∀ party, state'.phase party =
        if party ∈ parties then .stored else state.phase party := by
  induction parties generalizing state with
  | nil =>
      exact ⟨state, .refl, rfl, fun party => (if_neg (by simp)).symm⟩
  | cons first rest induction =>
      rcases List.nodup_cons.mp different with ⟨apart, others⟩
      let loaded := state.enter first (.holding state.cell)
      let stored : State Party Value :=
        { loaded.enter first .stored with
          cell := change first state.cell }
      have loads : Step mayQuit change state loaded :=
        .load first (fresh first List.mem_cons_self)
      have stores : Step mayQuit change loaded stored :=
        .store first (by simp [loaded, State.enter])
      have phases : ∀ party, stored.phase party =
          if party = first then .stored else state.phase party := by
        intro party
        by_cases same : party = first <;>
          simp [stored, loaded, State.enter, same]
      have stillFresh : ∀ party ∈ rest, stored.phase party = .fresh := by
        intro party member
        have later : party ≠ first := by
          rintro rfl
          exact apart member
        rw [phases, if_neg later]
        exact fresh party (List.mem_cons_of_mem _ member)
      rcases induction others stored stillFresh with
        ⟨last, run, cell, ended⟩
      refine
        ⟨last, .head loads (.head stores run), cell, fun party => ?_⟩
      rw [ended, phases]
      by_cases same : party = first <;>
        by_cases member : party ∈ rest <;> simp [same, member]

/--
For every chain of different parties there is an order in which all parties
store and the chain makes the cell.
-/
theorem exists_chained [Finite Party]
    {chain : List Party} (different : chain.Nodup)
    (nonempty : chain ≠ []) (initial : Value) :
    ∃ state, Runs mayQuit change (.start initial) state ∧
      (∀ party, state.phase party = .stored) ∧
      state.cell = chained change chain initial := by
  rcases chain with _ | ⟨first, rest⟩
  · exact absurd rfl nonempty
  rcases List.nodup_cons.mp different with ⟨apart, others⟩
  cases nonempty_fintype Party
  -- The first party of the chain reads before all others, and the parties
  -- that are to be lost write before it does.
  let lost := (Finset.univ.filter (· ∉ first :: rest)).toList
  have mem_lost : ∀ party, party ∈ lost ↔ party ∉ first :: rest := by
    simp [lost]
  let loaded : State Party Value :=
    (State.start initial).enter first (.holding initial)
  have loads : Step mayQuit change (.start initial) loaded := .load first rfl
  have lostFresh : ∀ party ∈ lost, loaded.phase party = .fresh := by
    intro party member
    have other : party ≠ first := by
      rintro rfl
      exact (mem_lost _).mp member List.mem_cons_self
    simp [loaded, State.enter, State.start, other]
  rcases
      exists_turns mayQuit change lost (Finset.nodup_toList _) loaded
        lostFresh with
    ⟨passed, passes, _, passedPhase⟩
  have firstHolds : passed.phase first = .holding initial := by
    have kept : first ∉ lost := fun member =>
      (mem_lost _).mp member List.mem_cons_self
    rw [passedPhase, if_neg kept]
    simp [loaded, State.enter]
  let stored : State Party Value :=
    { passed.enter first .stored with cell := change first initial }
  have stores : Step mayQuit change passed stored := .store first firstHolds
  have restFresh : ∀ party ∈ rest, stored.phase party = .fresh := by
    intro party member
    have other : party ≠ first := by
      rintro rfl
      exact apart member
    have kept : party ∉ lost := fun gone =>
      (mem_lost _).mp gone (List.mem_cons_of_mem _ member)
    simp only [stored, State.enter, Function.update_of_ne other]
    rw [passedPhase, if_neg kept]
    simp [loaded, State.enter, State.start, other]
  rcases exists_turns mayQuit change rest others stored restFresh with
    ⟨last, run, cell, lastPhase⟩
  refine
    ⟨last, .head loads (passes.trans (.head stores run)), ?_, cell⟩
  intro party
  rw [lastPhase]
  by_cases later : party ∈ rest
  · exact if_pos later
  · rw [if_neg later]
    by_cases same : party = first
    · simp [stored, State.enter, same]
    · have gone : party ∈ lost :=
        (mem_lost party).mpr (by simp [same, later])
      simp only [stored, State.enter, Function.update_of_ne same]
      rw [passedPhase, if_pos gone]

end Making

/--
Once all parties have stored, the cell is made by a nonempty chain, and it
may be made by any.
-/
theorem exists_stored_iff [DecidableEq Party] [Finite Party]
    [Nonempty Party] (mayQuit : Prop) (change : Party → Value → Value)
    (initial value : Value) :
    (∃ state, Runs mayQuit change (.start initial) state ∧
        (∀ party, state.phase party = .stored) ∧ state.cell = value) ↔
      ∃ chain : List Party, chain.Nodup ∧ chain ≠ [] ∧
        value = chained change chain initial := by
  constructor
  · rintro ⟨state, run, stored, rfl⟩
    rcases (traceable run).cell with ⟨chain, made, nonempty⟩
    rename_i inhabited
    rcases inhabited with ⟨party⟩
    exact
      ⟨chain, made.1, nonempty ⟨party, stored party⟩, made.2.2⟩
  · rintro ⟨chain, different, nonempty, rfl⟩
    exact exists_chained mayQuit change different nonempty initial

end Race
