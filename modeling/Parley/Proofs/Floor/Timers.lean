import Mathlib.Tactic.Tauto
import Parley.Proofs.Floor.Basic

/-!
# The timers of a desk

What is pending is read off `Timers.actions`: a timer that is removed is gone from it, and one that
is set is the only one of its id. Whoever looks at some of the timers only (`Timers.showing`) sees
nothing of what happens to the timers of other ids.
-/

namespace Parley

/-- What a wider filter lets through does not matter to a narrower one. -/
theorem filter_filter_of_imp {α : Type} {p q : α → Bool} {l : List α}
    (h : ∀ a ∈ l, p a = true → q a = true) : (l.filter q).filter p = l.filter p := by
  rw [List.filter_filter]
  exact List.filter_congr fun a ha => Bool.and_eq_left_iff_imp.2 (h a ha)

namespace Timers

variable {κ : Type} {ts : Timers κ} {id other : String} {seconds : Number.Binary64} {action : κ}
  {p : String × κ}

theorem ids_eq (ts : Timers κ) : ts.ids = Dictionary.keys ts.actions := by
  simp [ids, actions, Dictionary.keys, Function.comp_def]

theorem mem_actions_remove : p ∈ (ts.remove id).actions ↔ p ∈ ts.actions ∧ p.1 ≠ id := by
  simp only [actions, remove, List.mem_append, List.mem_map, List.mem_filter, bne_iff_ne, ne_eq]
  constructor
  · rintro (⟨t, ⟨ht, hid⟩, rfl⟩ | ⟨t, ⟨ht, hid⟩, rfl⟩)
    · exact ⟨Or.inl ⟨t, ht, rfl⟩, hid⟩
    · exact ⟨Or.inr ⟨t, ht, rfl⟩, hid⟩
  · rintro ⟨⟨t, ht, rfl⟩ | ⟨t, ht, rfl⟩, hid⟩
    · exact Or.inl ⟨t, ⟨ht, hid⟩, rfl⟩
    · exact Or.inr ⟨t, ⟨ht, hid⟩, rfl⟩

theorem mem_actions_schedule : p ∈ (ts.schedule id seconds action).actions ↔
    p ∈ (ts.remove id).actions ∨ p = (id, action) := by
  simp only [schedule, actions, List.map_append, List.map_cons, List.map_nil, List.mem_append,
    List.mem_singleton]
  tauto

theorem mem_ids_schedule : other ∈ (ts.schedule id seconds action).ids ↔
    other ∈ ts.ids ∨ other = id := by
  have hids : other ∈ (ts.schedule id seconds action).ids ↔
      other ∈ (ts.remove id).ids ∨ other = id := by
    simp only [schedule, ids, List.map_append, List.map_cons, List.map_nil, List.mem_append,
      List.mem_singleton]
    tauto
  rw [hids, mem_ids_remove]
  tauto

/-- The timers whose actions are shown. -/
def showing (ts : Timers κ) (p : κ → Bool) : Timers κ where
  queue := ts.queue.filter fun t => p t.action
  asleep := ts.asleep.filter fun t => p t.action

/-- A timer that is not shown can be removed. -/
theorem showing_remove {p : κ → Bool} (h : ∀ a, (id, a) ∈ ts.actions → p a = false) :
    (ts.remove id).showing p = ts.showing p := by
  have hne : ∀ id' a, (id', a) ∈ ts.actions → p a = true → (id' != id) = true := by
    rintro id' a ha hp
    rw [bne_iff_ne]
    rintro rfl
    rw [h a ha] at hp
    cases hp
  unfold showing remove
  congr 1
  · refine filter_filter_of_imp fun t ht => hne t.id t.action ?_
    exact List.mem_append_left _ (List.mem_map_of_mem ht)
  · refine filter_filter_of_imp fun t ht => hne t.id t.action ?_
    exact List.mem_append_right _ (List.mem_map_of_mem ht)

/-- A timer that is not shown can be set in the place of another one. -/
theorem showing_schedule {p : κ → Bool} (h : ∀ a, (id, a) ∈ ts.actions → p a = false)
    (ha : p action = false) : (ts.schedule id seconds action).showing p = ts.showing p := by
  rw [← showing_remove h]
  simp [showing, schedule, List.filter_append, ha]

end Timers

end Parley
