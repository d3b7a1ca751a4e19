/-!
Lists of named values, each name once, in the order in which the names first came.

A later value for a name takes the place of the earlier one. The view of a dictionary is its look-up
`find?`; `find?_put` says what a write does to it.
-/

namespace Parley

/-- Named values in the order in which the names first came. -/
abbrev Dictionary (α : Type) := List (String × α)

namespace Dictionary

variable {α : Type}

/-- The value under a name. -/
def find? : Dictionary α → String → Option α
  | [], _ => none
  | (k, v) :: rest, key => if k = key then some v else find? rest key

/-- Whether the name has a value. -/
def has (d : Dictionary α) (key : String) : Bool := (find? d key).isSome

/-- Gives a name a value: in the place of its earlier one, or at the end. -/
def put : Dictionary α → String → α → Dictionary α
  | [], key, value => [(key, value)]
  | (k, v) :: rest, key, value =>
    if k = key then (k, value) :: rest else (k, v) :: put rest key value

/-- The names in order. -/
def keys (d : Dictionary α) : List String := d.map (·.1)

/-- The names with their values given one after the other; the last value for a name counts. -/
def ofPairs (pairs : List (String × α)) : Dictionary α :=
  pairs.foldl (fun d p => put d p.1 p.2) []

/-- All names of the second dictionary written into the first. -/
def update (d e : Dictionary α) : Dictionary α := e.foldl (fun d p => put d p.1 p.2) d

/-- The dictionary without a name. -/
def drop (d : Dictionary α) (key : String) : Dictionary α := d.filter (·.1 != key)

@[simp] theorem find?_nil (key : String) : find? ([] : Dictionary α) key = none := rfl

theorem find?_put (d : Dictionary α) (key name : String) (value : α) :
    find? (put d key value) name = if key = name then some value else find? d name := by
  induction d with
  | nil => simp [put, find?]
  | cons p rest ih =>
    obtain ⟨k, v⟩ := p
    by_cases hk : k = key
    · by_cases hn : key = name
      · simp [put, find?, hk, hn]
      · simp [put, find?, hk, hn]
    · by_cases hn : k = name
      · subst hn
        have : ¬ key = k := fun h => hk h.symm
        simp [put, find?, hk, this]
      · simp [put, find?, hk, hn, ih]

/-- A write keeps the names in order and adds its own at the end when it is new. -/
theorem keys_put (d : Dictionary α) (key : String) (value : α) :
    keys (put d key value) = if key ∈ keys d then keys d else keys d ++ [key] := by
  induction d with
  | nil => simp [put, keys]
  | cons p rest ih =>
    obtain ⟨k, v⟩ := p
    by_cases hk : k = key
    · simp [put, keys, hk]
    · have hk' : ¬ key = k := fun h => hk h.symm
      simp only [keys] at ih
      by_cases hm : key ∈ rest.map (·.1)
      · simp only [put, hk, if_false, keys, List.map_cons, List.mem_cons, hk', false_or, hm,
          if_true]
        rw [ih]; simp [hm]
      · simp only [put, hk, if_false, keys, List.map_cons, List.mem_cons, hk', false_or, hm]
        rw [ih]; simp [hm]

theorem nodup_keys_put {d : Dictionary α} (h : (keys d).Nodup) (key : String) (value : α) :
    (keys (put d key value)).Nodup := by
  rw [keys_put]
  split
  · exact h
  · next hm =>
    rw [List.nodup_append]
    refine ⟨h, by simp, ?_⟩
    intro a ha b hb
    simp only [List.mem_singleton] at hb
    subst hb
    exact fun hab => hm (hab ▸ ha)

end Dictionary

end Parley
