import Parley.Text.Range

/-!
Blank characters, and cutting text at them.

`strip` drops blanks at both ends; `words` are the longest runs of characters that are not blank.
Main statement: a text is empty after stripping exactly when it holds blanks alone
(`stripChars_eq_nil_iff`).
-/

namespace Parley.Text

/-- Code points of white space: the separators of all scripts and the controls that move the
position, the four information separators among them. -/
def blankRanges : List CodeRange := [
  (0x09, 0x0D), (0x1C, 0x20), (0x85, 0x85), (0xA0, 0xA0), (0x1680, 0x1680), (0x2000, 0x200A),
  (0x2028, 0x2029), (0x202F, 0x202F), (0x205F, 0x205F), (0x3000, 0x3000)]

/-- Whether a character is white space. -/
def isBlank (c : Char) : Bool := inRanges blankRanges c

/-- Drops the blanks at the front. -/
def stripFront (cs : List Char) : List Char := cs.dropWhile isBlank

/-- Drops the blanks at the back. -/
def stripBack (cs : List Char) : List Char := (cs.reverse.dropWhile isBlank).reverse

/-- Drops the blanks at both ends. -/
def stripChars (cs : List Char) : List Char := stripBack (stripFront cs)

/-- Drops the blanks at both ends of a text. -/
def strip (s : String) : String := String.ofList (stripChars s.toList)

/-- Whether a text holds nothing but blanks. -/
def isAllBlank (s : String) : Bool := s.toList.all isBlank

/-- The longest runs of characters that are not blank, in order; `acc` is the run being read,
last character first. -/
def wordsFrom : List Char → List Char → List String
  | acc, [] => if acc.isEmpty then [] else [String.ofList acc.reverse]
  | acc, c :: cs =>
    if isBlank c then
      (if acc.isEmpty then [] else [String.ofList acc.reverse]) ++ wordsFrom [] cs
    else wordsFrom (c :: acc) cs

/-- The words of a text: the longest runs of characters that are not blank. -/
def words (s : String) : List String := wordsFrom [] s.toList

theorem stripFront_eq_nil_iff {cs : List Char} :
    stripFront cs = [] ↔ ∀ c ∈ cs, isBlank c = true := by
  induction cs with
  | nil => simp [stripFront]
  | cons c cs ih =>
    simp only [stripFront] at ih
    cases h : isBlank c <;> simp [stripFront, h, ih]

theorem stripBack_eq_nil_iff {cs : List Char} :
    stripBack cs = [] ↔ ∀ c ∈ cs, isBlank c = true := by
  rw [stripBack, List.reverse_eq_nil_iff]
  exact stripFront_eq_nil_iff.trans ⟨fun h c hc => h c (List.mem_reverse.2 hc),
    fun h c hc => h c (List.mem_reverse.1 hc)⟩

/-- A text is empty after stripping exactly when it holds blanks alone. -/
theorem stripChars_eq_nil_iff {cs : List Char} :
    stripChars cs = [] ↔ ∀ c ∈ cs, isBlank c = true := by
  rw [stripChars, stripBack_eq_nil_iff]
  induction cs with
  | nil => simp [stripFront]
  | cons c cs ih =>
    simp only [stripFront] at ih
    cases h : isBlank c <;> simp [stripFront, h, ih]

example : strip "  a b\u00a0" = "a b" := by decide +kernel

example : words " um  dois\ttrês " = ["um", "dois", "três"] := by decide +kernel

end Parley.Text
