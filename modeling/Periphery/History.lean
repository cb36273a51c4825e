import Mathlib.Data.List.Basic

/-!
# Histories

A history lists events in the order in which they happened.  A condition on
the events of a history may speak of what happened before each of them.
-/

namespace History

variable {Event : Type}

/-- Every event of the history satisfies the condition when it happens. -/
def Every (condition : List Event → Event → Prop)
    (history : List Event) : Prop :=
  ∀ earlier event, earlier ++ [event] <+: history →
    condition earlier event

@[simp]
theorem every_nil (condition : List Event → Event → Prop) :
    Every condition [] := by
  intro earlier event before
  simp at before

/-- A history that goes on by one event. -/
theorem every_concat
    {condition : List Event → Event → Prop} {history : List Event}
    {event : Event} (every : Every condition history)
    (last : condition history event) :
    Every condition (history ++ [event]) := by
  intro earlier event' before
  rcases List.prefix_concat_iff.mp before with same | before
  · rcases List.append_inj' same rfl with ⟨rfl, ⟨⟩⟩
    exact last
  · exact every earlier event' before

theorem Every.init
    {condition : List Event → Event → Prop} {history : List Event}
    {event : Event} (every : Every condition (history ++ [event])) :
    Every condition history := fun earlier event' before =>
  every earlier event' (before.trans (List.prefix_append _ _))

theorem Every.last
    {condition : List Event → Event → Prop} {history : List Event}
    {event : Event} (every : Every condition (history ++ [event])) :
    condition history event :=
  every history event (List.prefix_refl _)

theorem Every.of_mem
    {condition : List Event → Event → Prop} {history : List Event}
    {event : Event} (every : Every condition history)
    (member : event ∈ history) :
    ∃ earlier, condition earlier event := by
  rcases List.append_of_mem member with ⟨earlier, later, rfl⟩
  exact ⟨earlier, every earlier event ⟨later, by simp⟩⟩

end History
