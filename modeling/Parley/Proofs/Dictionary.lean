import Mathlib.Data.List.Nodup
import Parley.Dictionary

/-!
# Dictionaries

What is found in a dictionary of distinct names stands in it and the other way round. The values of
a dictionary can be mapped, shown in part, and written over by those of another one.
-/

namespace Parley

namespace Dictionary

variable {α β : Type} {d : Dictionary α} {key : String} {value : α}

theorem mem_of_find? (h : find? d key = some value) : (key, value) ∈ d := by
  induction d with
  | nil => cases h
  | cons p rest ih =>
    obtain ⟨k, v⟩ := p
    unfold find? at h
    split at h
    · rename_i hk
      cases h
      exact hk ▸ List.mem_cons_self
    · exact List.mem_cons_of_mem _ (ih h)

theorem find?_of_mem (hd : (keys d).Nodup) (h : (key, value) ∈ d) : find? d key = some value := by
  induction d with
  | nil => cases h
  | cons p rest ih =>
    obtain ⟨k, v⟩ := p
    obtain ⟨hk, hrest⟩ := List.nodup_cons.1 hd
    rcases List.mem_cons.1 h with h | h
    · cases h
      simp [find?]
    · have hne : k ≠ key := by
        intro e
        exact hk (e ▸ List.mem_map_of_mem (f := (·.1)) h)
      simpa [find?, hne] using ih hrest h

theorem find?_eq_none : find? d key = none ↔ key ∉ keys d := by
  induction d with
  | nil => simp [keys]
  | cons p rest ih =>
    obtain ⟨k, v⟩ := p
    by_cases hk : k = key
    · simp [find?, keys, hk]
    · have hk' : key ≠ k := fun h => hk h.symm
      simpa [find?, keys, hk, hk'] using ih

theorem find?_append (d e : Dictionary α) (key : String) :
    find? (d ++ e) key = (find? d key).or (find? e key) := by
  induction d with
  | nil => rfl
  | cons p rest ih =>
    obtain ⟨k, v⟩ := p
    by_cases hk : k = key
    · simp [find?, hk]
    · simpa [find?, hk] using ih

/-- What is put under a new name stands at the end. -/
theorem put_of_notMem (h : key ∉ keys d) (value : α) : put d key value = d ++ [(key, value)] := by
  induction d with
  | nil => rfl
  | cons p rest ih =>
    obtain ⟨k, v⟩ := p
    have hk : k ≠ key := by
      intro e
      exact h (by simp [keys, e])
    have hrest : key ∉ keys rest := fun hmem => h (List.mem_cons_of_mem _ hmem)
    simp [put, hk, ih hrest]

/-- What is put under a name that is there takes the place of its value. -/
theorem put_of_mem (hd : (keys d).Nodup) (h : key ∈ keys d) (value : α) :
    put d key value = d.map fun p => if p.1 = key then (p.1, value) else p := by
  induction d with
  | nil => cases h
  | cons p rest ih =>
    obtain ⟨k, v⟩ := p
    obtain ⟨hfirst, hrest⟩ := List.nodup_cons.1 hd
    by_cases hk : k = key
    · have hothers : rest.map (fun p => if p.1 = key then (p.1, value) else p) = rest := by
        refine List.map_congr_left (g := id) ?_ |>.trans (List.map_id _)
        intro p hp
        have hne : p.1 ≠ key := fun e => hfirst (hk ▸ e ▸ List.mem_map_of_mem (f := (·.1)) hp)
        exact if_neg hne
      simp [put, hk, hothers]
    · have hmem : key ∈ keys rest := (List.mem_cons.1 h).resolve_left fun e => hk e.symm
      simp [put, hk, ih hrest hmem]

theorem find?_drop (d : Dictionary α) (key name : String) :
    find? (drop d key) name = if key = name then none else find? d name := by
  induction d with
  | nil => simp [drop]
  | cons p rest ih =>
    obtain ⟨k, v⟩ := p
    unfold drop at ih ⊢
    by_cases hk : k = key
    · by_cases hn : key = name
      · simpa [hk, hn] using ih
      · simpa [hk, hn, find?] using ih
    · rw [List.filter_cons_of_pos (by simpa using hk)]
      by_cases hn : k = name
      · subst hn
        simp [find?, Ne.symm hk]
      · simpa [find?, hn] using ih

theorem find?_map (d : Dictionary α) (f : α → β) (key : String) :
    find? (d.map fun (k, v) => (k, f v)) key = (find? d key).map f := by
  induction d with
  | nil => rfl
  | cons p rest ih =>
    obtain ⟨k, v⟩ := p
    by_cases hk : k = key
    · simp [find?, hk]
    · simpa [find?, hk] using ih

/-- What is put in a place where nothing was shown, and is not shown, changes nothing that is. -/
theorem filter_values_put {p : α → Bool} (hnew : p value = false)
    (hold : ∀ v, find? d key = some v → p v = false) :
    ((put d key value).map (·.2)).filter p = (d.map (·.2)).filter p := by
  induction d with
  | nil => simp [put, hnew]
  | cons q rest ih =>
    obtain ⟨k, v⟩ := q
    by_cases hk : k = key
    · have hv : p v = false := hold v (by simp [find?, hk])
      simp [put, hk, hnew, hv]
    · have hrest := ih fun w hw => hold w (by simpa [find?, hk] using hw)
      simp only [put, if_neg hk, List.map_cons, List.filter_cons, hrest]

theorem keys_map (d : Dictionary α) (f : α → β) :
    keys (d.map fun (k, v) => (k, f v)) = keys d := by
  simp [keys, Function.comp_def]

/-- A dictionary is written over another one name by name. -/
theorem find?_update (d : Dictionary α) {e : Dictionary α} (he : (keys e).Nodup) (name : String) :
    find? (update d e) name = (find? e name).or (find? d name) := by
  induction e generalizing d with
  | nil => rfl
  | cons p rest ih =>
    obtain ⟨key, value⟩ := p
    obtain ⟨hkey, hrest⟩ := List.nodup_cons.1 he
    have hput : find? (update d ((key, value) :: rest)) name =
        (find? rest name).or (find? (put d key value) name) := ih (put d key value) hrest
    rw [hput, find?_put]
    by_cases hname : key = name
    · subst hname
      have hnone : find? rest key = none := by
        cases hfind : find? rest key with
        | none => rfl
        | some v => exact absurd (List.mem_map_of_mem (mem_of_find? hfind)) hkey
      simp [find?, hnone]
    · simp [find?, hname]

theorem map_put (d : Dictionary α) (f : α → β) (key : String) (value : α) :
    (put d key value).map (fun (k, v) => (k, f v)) =
      put (d.map fun (k, v) => (k, f v)) key (f value) := by
  induction d with
  | nil => rfl
  | cons p rest ih =>
    obtain ⟨k, v⟩ := p
    by_cases hk : k = key
    · simp [put, hk]
    · simp [put, hk, ih]

theorem map_update (d e : Dictionary α) (f : α → β) :
    (update d e).map (fun (k, v) => (k, f v)) =
      update (d.map fun (k, v) => (k, f v)) (e.map fun (k, v) => (k, f v)) := by
  induction e generalizing d with
  | nil => rfl
  | cons p rest ih =>
    have hrest := ih (put d p.1 p.2)
    rw [map_put] at hrest
    exact hrest

/-- What is written over a dictionary adds the names that are new, in order. -/
theorem keys_update (d e : Dictionary α) :
    keys (update d e) = (keys e).foldl (fun ks k => if k ∈ ks then ks else ks ++ [k]) (keys d) := by
  induction e generalizing d with
  | nil => rfl
  | cons p rest ih =>
    have hrest := ih (put d p.1 p.2)
    rw [keys_put] at hrest
    exact hrest

theorem drop_put (d : Dictionary α) (key name : String) (value : α) :
    drop (put d key value) name =
      if key = name then drop d name else put (drop d name) key value := by
  induction d with
  | nil =>
    by_cases hkey : key = name <;> simp [drop, put, hkey]
  | cons p rest ih =>
    obtain ⟨k, v⟩ := p
    unfold drop at ih ⊢
    by_cases hk : k = key
    · by_cases hname : key = name <;> simp [put, hk, hname]
    · by_cases hname : k = name
      · subst hname
        simp [put, hk, ih]
      · by_cases hkey : key = name <;> simp_all [put]

theorem drop_update (d e : Dictionary α) (name : String) :
    drop (update d e) name = update (drop d name) (drop e name) := by
  induction e generalizing d with
  | nil => rfl
  | cons p rest ih =>
    obtain ⟨k, v⟩ := p
    have hrest : drop (update d ((k, v) :: rest)) name = _ := ih (put d k v)
    rw [hrest, drop_put]
    by_cases hk : k = name
    · simp [drop, hk]
    · simp [drop, hk, update]

end Dictionary

end Parley
