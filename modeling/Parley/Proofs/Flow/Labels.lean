import Mathlib.Data.List.DropRight
import Parley.Flow.Reader

/-!
# The labels of edges that were read

A reading that ends with a value has ended with one in each of its parts (`Reading.ok_of_seq` and
its like). So an edge of a flow that was read carries a label without blanks around it, and not an
empty one (`Edge.IsTidy`, `tidy_of_read`): to strip it again changes nothing (`strip_strip`).
-/

namespace Parley

open Schema Text

namespace Text

/-- What begins like a text without blanks in front has none in front either. -/
theorem stripFront_of_prefix {cs ds : List Char} (h : ds <+: stripFront cs) :
    stripFront ds = ds := by
  cases ds with
  | nil => rfl
  | cons d ds =>
    obtain ⟨rest, hrest⟩ := h
    have hd : isBlank d = false := by
      have := List.head?_dropWhile_not isBlank cs
      rw [show cs.dropWhile isBlank = d :: ds ++ rest from hrest.symm] at this
      exact this
    exact List.dropWhile_cons_of_neg (by simp [hd])

theorem stripChars_stripChars (cs : List Char) : stripChars (stripChars cs) = stripChars cs := by
  have hfront : stripFront (stripChars cs) = stripChars cs :=
    stripFront_of_prefix (List.rdropWhile_prefix isBlank (stripFront cs))
  show stripBack (stripFront (stripChars cs)) = _
  rw [hfront]
  exact List.rdropWhile_idempotent isBlank (stripFront cs)

theorem strip_strip (s : String) : strip (strip s) = strip s := by
  unfold strip
  rw [String.toList_ofList, stripChars_stripChars]

end Text

namespace Reading

variable {α β γ : Type}

theorem ok_of_map {f : α → β} {x : Reading α} {b : β} (h : x.map f = .ok b) :
    ∃ a, x = .ok a ∧ f a = b := by
  cases x with
  | ok a => exact ⟨a, rfl, by cases h; rfl⟩
  | _ => cases h

theorem ok_of_both {x : Reading α} {y : Reading β} {p : α × β} (h : both x y = .ok p) :
    x = .ok p.1 ∧ y = .ok p.2 := by
  cases x <;> cases y <;> cases h
  exact ⟨rfl, rfl⟩

theorem ok_of_functor {f : α → β} {x : Reading α} {b : β} (h : f <$> x = .ok b) :
    ∃ a, x = .ok a ∧ f a = b := ok_of_map h

theorem ok_of_seq {f : Reading (α → β)} {x : Reading α} {b : β} (h : f <*> x = .ok b) :
    ∃ g a, f = .ok g ∧ x = .ok a ∧ g a = b := by
  obtain ⟨⟨g, a⟩, hboth, hb⟩ := ok_of_map (x := both f x) h
  exact ⟨g, a, (ok_of_both hboth).1, (ok_of_both hboth).2, hb⟩

theorem ok_of_under {step : PathStep} {x : Reading α} {a : α} (h : x.under step = .ok a) :
    x = .ok a := by
  cases x <;> cases h
  rfl

theorem ok_of_andThen {x : Reading α} {f : α → Reading β} {b : β} (h : x.andThen f = .ok b) :
    ∃ a, x = .ok a ∧ f a = .ok b := by
  cases x with
  | ok a => exact ⟨a, rfl, h⟩
  | _ => cases h

/-- Each of the values was read by one of the readings. -/
theorem mem_of_all {xs : List (Reading α)} {as : List α} (h : all xs = .ok as) {a : α}
    (ha : a ∈ as) : .ok a ∈ xs := by
  induction xs generalizing as with
  | nil =>
    cases h
    cases ha
  | cons x xs ih =>
    obtain ⟨⟨b, bs⟩, hboth, rfl⟩ := ok_of_map (x := both x (all xs)) h
    obtain ⟨hb, hbs⟩ := ok_of_both hboth
    rcases List.mem_cons.1 ha with rfl | ha
    · exact hb ▸ List.mem_cons_self
    · exact List.mem_cons_of_mem _ (ih hbs ha)

end Reading

open Reading

theorem optional_ok {α : Type} {fields : Fields} {names : List String} {default a : α}
    {f : Json → Reading α} (h : optional fields names default f = .ok a) :
    a = default ∨ ∃ v, f v = .ok a := by
  unfold Schema.optional at h
  split at h
  · exact .inr ⟨_, ok_of_under h⟩
  · cases h
    exact .inl rfl

theorem readList_ok {α : Type} {f : Json → Reading α} {v : Json} {as : List α}
    (h : readList f v = .ok as) {a : α} (ha : a ∈ as) : ∃ v, f v = .ok a := by
  cases v with
  | arr items =>
    obtain ⟨⟨v, i⟩, -, hread⟩ := List.mem_map.1 (mem_of_all h ha)
    exact ⟨v, ok_of_under hread⟩
  | _ => cases h

/-- The label of an edge, if there is one, has no blanks around it and is not empty. -/
def Edge.IsTidy (e : Edge) : Prop := ∀ l, e.label = some l → strip l = l ∧ l ≠ ""

theorem Edge.labelOf_eq_some {v : Json} {l : String} (h : labelOf v = some l) :
    strip l = l ∧ l ≠ "" := by
  unfold labelOf at h
  split at h
  · cases h
  · dsimp only at h
    split at h
    · cases h
    · rename_i hne
      cases h
      exact ⟨strip_strip _, hne⟩

theorem Edge.tidy_of_read {v : Json} {e : Edge} (h : Edge.read v = .ok e) : e.IsTidy := by
  unfold Edge.read at h
  split at h
  · obtain ⟨_, label, hjoined, hlabel, rfl⟩ := ok_of_seq h
    obtain ⟨_, target, hleaving, -, rfl⟩ := ok_of_seq hjoined
    obtain ⟨_, source, hnamed, -, rfl⟩ := ok_of_seq hleaving
    obtain ⟨id, -, rfl⟩ := ok_of_functor hnamed
    rintro l hl
    rcases optional_ok hlabel with hnone | ⟨v, hv⟩
    · cases hnone.symm.trans hl
    · exact labelOf_eq_some ((Reading.ok.inj hv).trans hl)
  · cases h

/-- The edges of a flow that was read. -/
theorem Flow.tidy_of_read {v : Json} {f : Flow} (h : Flow.read v = .ok f) :
    ∀ e ∈ f.edges, e.IsTidy := by
  unfold Flow.read at h
  split at h
  · obtain ⟨build, edges, hparts, hedges, rfl⟩ := ok_of_seq h
    have hbuilt : (build edges).edges = edges := by
      obtain ⟨_, nodes, htriggers, -, rfl⟩ := ok_of_seq hparts
      obtain ⟨_, triggers, henabled, -, rfl⟩ := ok_of_seq htriggers
      obtain ⟨_, enabled, hname, -, rfl⟩ := ok_of_seq henabled
      obtain ⟨_, name, htenant, -, rfl⟩ := ok_of_seq hname
      obtain ⟨_, tenant, hid, -, rfl⟩ := ok_of_seq htenant
      obtain ⟨id, -, rfl⟩ := ok_of_functor hid
      rfl
    rw [hbuilt]
    intro e he
    rcases optional_ok hedges with rfl | ⟨w, hw⟩
    · cases he
    · obtain ⟨u, -, hu⟩ := ok_of_andThen hw
      obtain ⟨written, hwritten⟩ := readList_ok hu he
      exact Edge.tidy_of_read hwritten
  · cases h

end Parley
