import Mathlib.Data.List.Forall2
import Mathlib.Data.List.TakeWhile
import Parley.Number.Leading
import Parley.Schema.Scalar

/-!
# Texts that differ in their spelling

Two texts are respelled if some of the 26 letters have the other case in one of them (`Respelled`).
They have one common form, in which the 26 letters are small (`Respelled.asciiLower_eq`).

That common form tells the small form in all scripts, surroundings of a sigma included
(`lower_asciiLower`), and the number at the front (`leadingNumber?_asciiLower`); blanks at the ends
are dropped in it as they are in the text (`strip_asciiLower`). A text without one of the 26 letters
is its own common form, and no other text has it (`eq_of_asciiLower_eq`).
-/

namespace Parley.Text

open Number Schema

variable {c d : Char} {cs ds : List Char} {s t : String}

/-- The other form of one of the 26 letters; any other character is left as it is. -/
def swapCase (c : Char) : Char :=
  if 'A' ≤ c ∧ c ≤ 'Z' then Char.ofNat (c.toNat + 32)
  else if 'a' ≤ c ∧ c ≤ 'z' then Char.ofNat (c.toNat - 32)
  else c

/-- Two texts are the same but for the case of some of the 26 letters. -/
def Respelled (s t : String) : Prop :=
  List.Forall₂ (fun c d => d = c ∨ d = swapCase c) s.toList t.toList

/-- One of the 26 letters stands in the text. -/
def HasLetter (s : String) : Prop := ∃ c ∈ s.toList, swapCase c ≠ c

instance (s t : String) : Decidable (Respelled s t) :=
  inferInstanceAs (Decidable (List.Forall₂ (fun c d => d = c ∨ d = swapCase c) s.toList t.toList))

example : Respelled "2 Via" "2 vIA" := by decide

/-! ## Characters -/

theorem exists_capital (h : 'A' ≤ c ∧ c ≤ 'Z') : ∃ n < 26, c = Char.ofNat (n + 65) := by
  have hfirst : 65 ≤ c.toNat := h.1
  have hlast : c.toNat ≤ 90 := h.2
  refine ⟨c.toNat - 65, by omega, ?_⟩
  rw [Nat.sub_add_cancel hfirst, Char.ofNat_toNat]

theorem exists_small (h : 'a' ≤ c ∧ c ≤ 'z') : ∃ n < 26, c = Char.ofNat (n + 97) := by
  have hfirst : 97 ≤ c.toNat := h.1
  have hlast : c.toNat ≤ 122 := h.2
  refine ⟨c.toNat - 97, by omega, ?_⟩
  rw [Nat.sub_add_cancel hfirst, Char.ofNat_toNat]

/-- What is the same for each capital letter and its small form is the same for every character and
what it is when the letters are small. -/
theorem apply_asciiSmall {β : Sort*} {g : Char → β}
    (hletter : ∀ n < 26, g (Char.ofNat (n + 97)) = g (Char.ofNat (n + 65))) (c : Char) :
    g (asciiSmall c) = g c := by
  unfold asciiSmall
  split
  · obtain ⟨n, hn, rfl⟩ := exists_capital ‹_›
    have hcode : ∀ n < 26, (Char.ofNat (n + 65)).toNat + 32 = n + 97 := by decide
    rw [hcode n hn]
    exact hletter n hn
  · rfl

theorem asciiSmall_swapCase (c : Char) : asciiSmall (swapCase c) = asciiSmall c := by
  unfold swapCase
  split
  · obtain ⟨n, hn, rfl⟩ := exists_capital ‹_›
    revert n
    decide
  · split
    · obtain ⟨n, hn, rfl⟩ := exists_small ‹_›
      revert n
      decide
    · rfl

theorem isBlank_asciiSmall (c : Char) : isBlank (asciiSmall c) = isBlank c :=
  apply_asciiSmall (by decide) c

theorem digitValue?_asciiSmall (c : Char) : digitValue? (asciiSmall c) = digitValue? c :=
  apply_asciiSmall (by decide) c

theorem lowerChar_asciiSmall (c : Char) : lowerChar (asciiSmall c) = lowerChar c :=
  apply_asciiSmall (by decide) c

theorem inRanges_ignorable_asciiSmall (c : Char) :
    inRanges caseIgnorableRanges (asciiSmall c) = inRanges caseIgnorableRanges c :=
  apply_asciiSmall (by decide +kernel) c

theorem inRanges_cased_asciiSmall (c : Char) :
    inRanges casedRanges (asciiSmall c) = inRanges casedRanges c :=
  apply_asciiSmall (by decide) c

/-- A character that is none of the 26 letters comes of itself alone. -/
theorem asciiSmall_eq_iff (hd : swapCase d = d) : asciiSmall c = d ↔ c = d := by
  refine Iff.of_eq (apply_asciiSmall (g := (· = d)) ?_ c)
  intro n hn
  have hletters : ∀ n < 26, swapCase (Char.ofNat (n + 97)) ≠ Char.ofNat (n + 97) ∧
      swapCase (Char.ofNat (n + 65)) ≠ Char.ofNat (n + 65) := by decide
  refine propext (iff_of_false ?_ ?_)
  · rintro rfl
    exact (hletters n hn).1 hd
  · rintro rfl
    exact (hletters n hn).2 hd

theorem asciiSmall_of_eq (hc : swapCase c = c) : asciiSmall c = c := (asciiSmall_eq_iff hc).2 rfl

/-! ## Texts -/

theorem toList_asciiLower (s : String) : (asciiLower s).toList = s.toList.map asciiSmall :=
  String.toList_ofList

section
variable {f : Char → Char}

theorem stripFront_map (hf : ∀ c, isBlank (f c) = isBlank c) (cs : List Char) :
    stripFront (cs.map f) = (stripFront cs).map f := by
  unfold stripFront
  rw [List.dropWhile_map, show isBlank ∘ f = isBlank from funext hf]

/-- Blanks at the ends can be dropped before or after other characters change. -/
theorem stripChars_map (hf : ∀ c, isBlank (f c) = isBlank c) (cs : List Char) :
    stripChars (cs.map f) = (stripChars cs).map f := by
  have hback : ∀ ds : List Char, stripBack (ds.map f) = (stripBack ds).map f := by
    intro ds
    have hfront := stripFront_map hf ds.reverse
    unfold stripFront at hfront
    unfold stripBack
    rw [← List.map_reverse, hfront, List.map_reverse]
  unfold stripChars
  rw [stripFront_map hf, hback]

end

theorem strip_asciiLower (s : String) : strip (asciiLower s) = asciiLower (strip s) := by
  unfold strip
  rw [toList_asciiLower, stripChars_map isBlank_asciiSmall]
  unfold asciiLower
  rw [String.toList_ofList]

theorem nextIsCased_map (cs : List Char) :
    nextIsCased (cs.map asciiSmall) = nextIsCased cs := by
  have hignorable : inRanges caseIgnorableRanges ∘ asciiSmall = inRanges caseIgnorableRanges :=
    funext inRanges_ignorable_asciiSmall
  unfold nextIsCased
  rw [List.dropWhile_map, hignorable]
  cases cs.dropWhile (inRanges caseIgnorableRanges) with
  | nil => rfl
  | cons c cs => exact inRanges_cased_asciiSmall c

theorem lowerFrom_map (before cs : List Char) :
    lowerFrom (before.map asciiSmall) (cs.map asciiSmall) = lowerFrom before cs := by
  induction cs generalizing before with
  | nil => rfl
  | cons c cs ih =>
    have hsigma : asciiSmall c = 'Σ' ↔ c = 'Σ' := asciiSmall_eq_iff (by decide)
    have hrest := ih (c :: before)
    rw [List.map_cons] at hrest
    rw [List.map_cons, lowerFrom, lowerFrom, hrest, nextIsCased_map, nextIsCased_map,
      lowerChar_asciiSmall]
    simp only [hsigma]

/-- The small form of a text in all scripts does not hang on the case of the 26 letters. -/
theorem lower_asciiLower (s : String) : lower (asciiLower s) = lower s := by
  unfold lower
  rw [toList_asciiLower]
  exact congrArg String.ofList (lowerFrom_map [] s.toList)

theorem takeSign_of_other {cs : List Char} (hminus : cs.head? ≠ some '-')
    (hplus : cs.head? ≠ some '+') : Number.takeSign cs = (false, cs) := by
  unfold Number.takeSign
  split
  · exact absurd rfl hminus
  · exact absurd rfl hplus
  · rfl

theorem takeSign_map (cs : List Char) :
    Number.takeSign (cs.map asciiSmall) =
      ((Number.takeSign cs).1, (Number.takeSign cs).2.map asciiSmall) := by
  cases cs with
  | nil => rfl
  | cons c cs =>
    by_cases hminus : c = '-'
    · rw [hminus]
      rfl
    by_cases hplus : c = '+'
    · rw [hplus]
      rfl
    have hminus' : asciiSmall c ≠ '-' := (asciiSmall_eq_iff (by decide)).not.2 hminus
    have hplus' : asciiSmall c ≠ '+' := (asciiSmall_eq_iff (by decide)).not.2 hplus
    have hsame : Number.takeSign (c :: cs) = (false, c :: cs) :=
      takeSign_of_other (by simpa using hminus) (by simpa using hplus)
    rw [hsame, takeSign_of_other (by simpa using hminus') (by simpa using hplus')]

theorem isDigit_comp_asciiSmall : isDigit ∘ asciiSmall = isDigit := by
  funext c
  unfold isDigit
  rw [Function.comp_apply, digitValue?_asciiSmall]

theorem takeWhile_isDigit_map (cs : List Char) :
    (cs.map asciiSmall).takeWhile isDigit = (cs.takeWhile isDigit).map asciiSmall := by
  rw [List.takeWhile_map, isDigit_comp_asciiSmall]

theorem takeDigits_of_point {rest : List Char} (h : cs.dropWhile isDigit = '.' :: rest) :
    takeDigits cs =
      if (cs.takeWhile isDigit).isEmpty && (rest.takeWhile isDigit).isEmpty then none
      else some (cs.takeWhile isDigit, rest.takeWhile isDigit) := by
  unfold takeDigits
  rw [h]
  rfl

theorem takeDigits_of_other (h : (cs.dropWhile isDigit).head? ≠ some '.') :
    takeDigits cs =
      if (cs.takeWhile isDigit).isEmpty then none else some (cs.takeWhile isDigit, []) := by
  unfold takeDigits
  split
  · rename_i hpoint
    exact absurd (congrArg List.head? hpoint) h
  · rfl

theorem takeDigits_map (cs : List Char) :
    takeDigits (cs.map asciiSmall) =
      (takeDigits cs).map fun p => (p.1.map asciiSmall, p.2.map asciiSmall) := by
  have hdrop : (cs.map asciiSmall).dropWhile isDigit = (cs.dropWhile isDigit).map asciiSmall := by
    rw [List.dropWhile_map, isDigit_comp_asciiSmall]
  by_cases hpoint : (cs.dropWhile isDigit).head? = some '.'
  · obtain ⟨rest, hrest⟩ := List.head?_eq_some_iff.1 hpoint
    rw [hrest] at hdrop
    rw [takeDigits_of_point hdrop, takeDigits_of_point hrest, takeWhile_isDigit_map,
      takeWhile_isDigit_map, List.isEmpty_map, List.isEmpty_map]
    split <;> rfl
  · have hother : ((cs.map asciiSmall).dropWhile isDigit).head? ≠ some '.' := by
      rw [hdrop, List.head?_map]
      intro h
      obtain ⟨c, hc, hsmall⟩ := Option.map_eq_some_iff.1 h
      exact hpoint (hc.trans (congrArg some ((asciiSmall_eq_iff (by decide)).1 hsmall)))
    rw [takeDigits_of_other hother, takeDigits_of_other hpoint, takeWhile_isDigit_map,
      List.isEmpty_map]
    split <;> rfl

theorem digitsValue_map (cs : List Char) : digitsValue (cs.map asciiSmall) = digitsValue cs := by
  have hvalue : ∀ c, digitValue (asciiSmall c) = digitValue c := by
    intro c
    unfold digitValue
    rw [digitValue?_asciiSmall]
  unfold digitsValue
  rw [List.foldl_map]
  simp only [hvalue]

/-- The number at the front of a text does not hang on the case of the 26 letters. -/
theorem leadingNumber?_asciiLower (s : String) :
    leadingNumber? (asciiLower s) = leadingNumber? s := by
  unfold leadingNumber?
  rw [toList_asciiLower, stripFront_map isBlank_asciiSmall, takeSign_map]
  dsimp only
  rw [takeDigits_map, Option.map_map]
  congr 1
  funext p
  dsimp only [Function.comp_apply]
  rw [← List.map_append, digitsValue_map, List.length_map]

/-! ## Spelling -/

theorem Respelled.refl (s : String) : Respelled s s := by
  unfold Respelled
  exact List.forall₂_same.2 fun c _ => .inl rfl

/-- A text with the other case for all its letters. -/
def swapped (s : String) : String := String.ofList (s.toList.map swapCase)

theorem respelled_swapped (s : String) : Respelled s (swapped s) := by
  unfold Respelled swapped
  rw [String.toList_ofList, List.forall₂_map_right_iff]
  exact List.forall₂_same.2 fun c _ => .inr rfl

theorem Respelled.eq_empty_iff (h : Respelled s t) : s = "" ↔ t = "" := by
  have hlength := List.Forall₂.length_eq h
  rw [← String.toList_eq_nil_iff, ← String.toList_eq_nil_iff, ← List.length_eq_zero_iff, hlength,
    List.length_eq_zero_iff]

/-- Texts that differ in their spelling have one common form. -/
theorem Respelled.asciiLower_eq (h : Respelled s t) : asciiLower s = asciiLower t := by
  have hchars : List.Forall₂ (fun c d => asciiSmall c = asciiSmall d) s.toList t.toList := by
    refine List.Forall₂.imp ?_ h
    rintro c d (rfl | rfl)
    · rfl
    · exact (asciiSmall_swapCase c).symm
  have hmaps : List.Forall₂ (· = ·) (s.toList.map asciiSmall) (t.toList.map asciiSmall) := by
    rw [List.forall₂_map_left_iff, List.forall₂_map_right_iff]
    exact hchars
  rw [List.forall₂_eq_eq_eq] at hmaps
  exact congrArg String.ofList hmaps

theorem not_hasLetter_iff : ¬ HasLetter s ↔ ∀ c ∈ s.toList, swapCase c = c := by
  unfold HasLetter
  simp

/-- Texts with a common form have one small form in all scripts. -/
theorem lower_congr (h : asciiLower s = asciiLower t) : lower s = lower t := by
  rw [← lower_asciiLower, h, lower_asciiLower]

/-- Texts with a common form begin with the same number, if with any. -/
theorem leadingNumber?_congr (h : asciiLower s = asciiLower t) :
    leadingNumber? s = leadingNumber? t := by
  rw [← leadingNumber?_asciiLower, h, leadingNumber?_asciiLower]

theorem strip_congr (h : asciiLower s = asciiLower t) :
    asciiLower (strip s) = asciiLower (strip t) := by
  rw [← strip_asciiLower, h, strip_asciiLower]

/-- A text without letters is the only one with its common form. -/
theorem eq_of_asciiLower_eq (hs : ¬ HasLetter s) (h : asciiLower t = asciiLower s) : t = s := by
  rw [not_hasLetter_iff] at hs
  have hself : s.toList.map asciiSmall = s.toList :=
    (List.map_congr_left fun c hc => asciiSmall_of_eq (hs c hc)).trans (List.map_id _)
  have hlists : t.toList.map asciiSmall = s.toList := by
    rw [← toList_asciiLower, h, toList_asciiLower, hself]
  have hother : t.toList.map asciiSmall = t.toList := by
    refine (List.map_congr_left fun c hc => ?_).trans (List.map_id _)
    have hc : asciiSmall c ∈ s.toList := hlists ▸ List.mem_map_of_mem hc
    exact ((asciiSmall_eq_iff (hs _ hc)).1 rfl).symm
  exact String.toList_inj.1 (hother.symm.trans hlists)

theorem not_isBlank_of_letter (h : swapCase c ≠ c) : isBlank c = false := by
  unfold swapCase at h
  split at h
  · obtain ⟨n, hn, rfl⟩ := exists_capital ‹_›
    clear h
    revert n
    decide
  · split at h
    · obtain ⟨n, hn, rfl⟩ := exists_small ‹_›
      clear h
      revert n
      decide
    · exact absurd rfl h

theorem stripChars_subset (cs : List Char) : stripChars cs ⊆ cs := by
  intro c hc
  have hc := (List.dropWhile_sublist isBlank).subset (List.mem_reverse.1 hc)
  exact (List.dropWhile_sublist isBlank).subset (List.mem_reverse.1 hc)

theorem HasLetter.of_strip (h : HasLetter (strip s)) : HasLetter s := by
  obtain ⟨c, hc, hletter⟩ := h
  unfold Text.strip at hc
  rw [String.toList_ofList] at hc
  exact ⟨c, stripChars_subset s.toList hc, hletter⟩

theorem mem_stripFront (hc : c ∈ cs) (hblank : isBlank c = false) : c ∈ stripFront cs := by
  rw [← List.takeWhile_append_dropWhile (p := isBlank) (l := cs), List.mem_append] at hc
  obtain hc | hc := hc
  · rw [List.mem_takeWhile_imp hc] at hblank
    cases hblank
  · exact hc

theorem HasLetter.strip (h : HasLetter s) : HasLetter (strip s) := by
  obtain ⟨c, hc, hletter⟩ := h
  have hblank := not_isBlank_of_letter hletter
  refine ⟨c, ?_, hletter⟩
  unfold Text.strip
  rw [String.toList_ofList]
  refine List.mem_reverse.2 (mem_stripFront (List.mem_reverse.2 ?_) hblank)
  exact mem_stripFront hc hblank

theorem isBlank_swapCase (c : Char) : isBlank (swapCase c) = isBlank c := by
  rw [← isBlank_asciiSmall, asciiSmall_swapCase, isBlank_asciiSmall]

/-- With the other case for its letters a text that holds one reads otherwise, also without the
blanks at its ends. -/
theorem HasLetter.strip_swapped_ne (h : HasLetter s) : Text.strip (swapped s) ≠ Text.strip s := by
  intro heq
  obtain ⟨c, hc, hletter⟩ := h.strip
  have hchars : (stripChars s.toList).map swapCase = (stripChars s.toList).map id := by
    have hlists := congrArg String.toList heq
    unfold Text.strip swapped at hlists
    rw [String.toList_ofList, String.toList_ofList, String.toList_ofList,
      stripChars_map isBlank_swapCase] at hlists
    rw [hlists, List.map_id]
  unfold Text.strip at hc
  rw [String.toList_ofList] at hc
  exact hletter (List.map_inj_left.1 hchars c hc)

end Parley.Text
