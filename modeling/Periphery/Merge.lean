import Mathlib.Data.List.Basic
import Mathlib.Data.List.Induction
import Mathlib.Tactic.Common

/-!
# Merges of lists

Several parties contribute items to one list.  The list is a merge of what
they contributed if its items can be labelled with parties such that the items
of each party are its own, in its own order.
-/

namespace Merge

variable {Party Item Event : Type}

/-- The items of an event, all labelled with its party. -/
def itemsOf (items : Event → List Item) (entry : Party × Event) :
    List (Party × Item) :=
  (items entry.2).map fun item => (entry.1, item)

theorem map_itemsOf (items : Event → List Item) (entry : Party × Event) :
    (itemsOf items entry).map Prod.snd = items entry.2 := by
  rw [itemsOf, List.map_map]
  exact List.map_id _

variable [DecidableEq Party]

/-- The items of one party. -/
def part (party : Party) (labelled : List (Party × Item)) : List Item :=
  labelled.filterMap fun entry =>
    if entry.1 = party then some entry.2 else none

@[simp]
theorem part_nil (party : Party) :
    part party ([] : List (Party × Item)) = [] :=
  rfl

@[simp]
theorem part_append
    (party : Party) (first second : List (Party × Item)) :
    part party (first ++ second) = part party first ++ part party second :=
  List.filterMap_append

@[simp]
theorem part_self (party : Party) (item : Item) :
    part party [(party, item)] = [item] := by
  simp [part]

theorem part_of_ne
    {party other : Party} (different : other ≠ party) (item : Item) :
    part party [(other, item)] = [] := by
  simp [part, different]

theorem mem_part
    {labelled : List (Party × Item)} {entry : Party × Item}
    (member : entry ∈ labelled) :
    entry.2 ∈ part entry.1 labelled :=
  List.mem_filterMap.mpr ⟨entry, member, if_pos rfl⟩

/-- The list is a merge of these parts. -/
def Merges (parts : Party → List Item) (whole : List Item) : Prop :=
  ∃ labelled : List (Party × Item),
    labelled.map Prod.snd = whole ∧
      ∀ party, part party labelled = parts party

theorem part_itemsOf
    (items : Event → List Item) (party other : Party) (event : Event) :
    part party (itemsOf items (other, event)) =
      (part party [(other, event)]).flatMap items := by
  unfold part itemsOf
  rw [List.filterMap_map]
  by_cases same : other = party <;> simp [same]

theorem part_flatMap_itemsOf
    (items : Event → List Item) (party : Party)
    (history : List (Party × Event)) :
    part party (history.flatMap (itemsOf items)) =
      (part party history).flatMap items := by
  induction history with
  | nil => rfl
  | cons entry history induction =>
      rcases entry with ⟨other, event⟩
      have split :
          part party ((other, event) :: history) =
            part party [(other, event)] ++ part party history :=
        part_append party [(other, event)] history
      rw [List.flatMap_cons, part_append, induction, part_itemsOf, split,
        List.flatMap_append]

/-- Events in some order have their items in a merged order. -/
theorem merges_flatMap
    (items : Event → List Item) (history : List (Party × Event)) :
    Merges (fun party => (part party history).flatMap items)
      ((history.map Prod.snd).flatMap items) := by
  refine ⟨history.flatMap (itemsOf items), ?_, fun party => ?_⟩
  · rw [List.map_flatMap, List.flatMap_map]
    simp only [map_itemsOf]
  · exact part_flatMap_itemsOf items party history

end Merge
