/-!
Finding, cutting and replacing inside a text.
-/

namespace Parley.Text

/-- Whether `part` stands at the front of the text. -/
def startsWith : List Char → List Char → Bool
  | _, [] => true
  | [], _ :: _ => false
  | c :: cs, d :: ds => c == d && startsWith cs ds

/-- Whether `part` stands somewhere in the text. -/
def holds : List Char → List Char → Bool
  | [], part => part.isEmpty
  | c :: cs, part => startsWith (c :: cs) part || holds cs part

/-- Whether `part` stands somewhere in the text. -/
def contains (s part : String) : Bool := holds s.toList part.toList

/-- The pieces between the occurrences of a character, at least one. -/
def splitAtChar (sep : Char) : List Char → List (List Char)
  | [] => [[]]
  | c :: cs =>
    if c = sep then [] :: splitAtChar sep cs
    else match splitAtChar sep cs with
      | [] => [[c]]
      | piece :: rest => (c :: piece) :: rest

/-- Every occurrence of one character replaced by another. -/
def replaceChar (old new : Char) (s : String) : String :=
  String.ofList (s.toList.map fun c => if c = old then new else c)

/-- The texts one after the other with `sep` between them. -/
def join (sep : String) (parts : List String) : String := sep.intercalate parts

/-- The first `n` characters. -/
def takeChars (n : Nat) (s : String) : String := String.ofList (s.toList.take n)

/-- The text after its first `n` characters. -/
def dropChars (n : Nat) (s : String) : String := String.ofList (s.toList.drop n)

theorem splitAtChar_eq_cons (sep : Char) (cs : List Char) :
    ∃ piece rest, splitAtChar sep cs = piece :: rest := by
  cases cs with
  | nil => exact ⟨[], [], rfl⟩
  | cons c cs =>
    unfold splitAtChar
    split
    · exact ⟨_, _, rfl⟩
    · split <;> exact ⟨_, _, rfl⟩

/-- A row without the character that is cut at goes to the first piece. -/
theorem splitAtChar_append {sep : Char} {row ds piece : List Char} {rest : List (List Char)}
    (hrow : ∀ d ∈ row, d ≠ sep) (h : splitAtChar sep ds = piece :: rest) :
    splitAtChar sep (row ++ ds) = (row ++ piece) :: rest := by
  induction row with
  | nil => exact h
  | cons d row ih =>
    obtain ⟨hd, hrow⟩ := List.forall_mem_cons.1 hrow
    rw [List.cons_append, splitAtChar, if_neg hd, ih hrow]
    rfl

theorem startsWith_iff {cs part : List Char} : startsWith cs part = true ↔ ∃ r, cs = part ++ r := by
  induction part generalizing cs with
  | nil => simp [startsWith]
  | cons d ds ih =>
    cases cs with
    | nil => simp [startsWith]
    | cons c cs =>
      simp only [startsWith, Bool.and_eq_true, beq_iff_eq, ih, List.cons_append, List.cons.injEq]
      constructor
      · rintro ⟨rfl, r, rfl⟩
        exact ⟨r, rfl, rfl⟩
      · rintro ⟨r, rfl, rfl⟩
        exact ⟨rfl, r, rfl⟩

theorem holds_iff {cs part : List Char} : holds cs part = true ↔ ∃ l r, cs = l ++ part ++ r := by
  induction cs with
  | nil =>
    simp only [holds, List.isEmpty_iff]
    constructor
    · rintro rfl; exact ⟨[], [], rfl⟩
    · rintro ⟨l, r, h⟩
      have h := h.symm
      simp only [List.append_eq_nil_iff] at h
      exact h.1.2
  | cons c cs ih =>
    simp only [holds, Bool.or_eq_true, startsWith_iff, ih]
    constructor
    · rintro (⟨r, h⟩ | ⟨l, r, h⟩)
      · exact ⟨[], r, by simpa using h⟩
      · exact ⟨c :: l, r, by simp [h]⟩
    · rintro ⟨l, r, h⟩
      cases l with
      | nil => exact Or.inl ⟨r, by simpa using h⟩
      | cons d l =>
        simp only [List.cons_append, List.cons.injEq] at h
        exact Or.inr ⟨l, r, h.2⟩

end Parley.Text
