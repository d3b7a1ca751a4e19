import Mathlib.Data.List.Forall2
import Parley.Proofs.Text.Words
import Parley.Text.Search

/-!
# Texts with the same marks

Some characters of a text are its marks, and what stands between them is a filling. Two texts have
the same marks if the one comes of the other by putting a row of other characters, not an empty one,
in the place of each character that is no mark (`SameMarks`). Then they are cut at a mark into as
many pieces, which have the same marks themselves (`SameMarks.splitAtChar`), they begin and end with
the same marks (`SameMarks.head?`, `SameMarks.getLast?`), and where two marks stand side by side in
the one they do so in the other (`SameMarks.holds_pair`).

Points, at signs and blanks are no letters: no rule for small forms speaks of them or gives one. So
a text and its small form have them in common (`lower_sameMarks`), also where the small form of a
character is more than one.
-/

namespace Parley.Text

variable {isMark : Char → Bool} {m : Char} {cs ds row : List Char} {s : String}

/-- The second text has the marks of the first, and a row of other characters in the place of each
of its other characters. -/
inductive SameMarks (isMark : Char → Bool) : List Char → List Char → Prop
  | nil : SameMarks isMark [] []
  | mark {c : Char} {cs ds : List Char} (hc : isMark c = true) (h : SameMarks isMark cs ds) :
    SameMarks isMark (c :: cs) (c :: ds)
  | other {c : Char} {cs ds row : List Char} (hc : isMark c = false) (hne : row ≠ [])
    (hrow : ∀ d ∈ row, isMark d = false) (h : SameMarks isMark cs ds) :
    SameMarks isMark (c :: cs) (row ++ ds)

namespace SameMarks

theorem ne_of_not_isMark {c : Char} (hm : isMark m = true) (hc : isMark c = false) : c ≠ m := by
  rintro rfl
  rw [hm] at hc
  cases hc

theorem eq_nil_iff (h : SameMarks isMark cs ds) : ds = [] ↔ cs = [] := by
  cases h with
  | nil => simp
  | mark => simp
  | other _ hne => simp [hne]

/-- Whether some mark of a kind stands in the text. -/
theorem any_eq {p : Char → Bool} (hp : ∀ c, p c = true → isMark c = true)
    (h : SameMarks isMark cs ds) : ds.any p = cs.any p := by
  have hother : ∀ c, isMark c = false → p c = false := by
    intro c hc
    cases hpc : p c with
    | false => rfl
    | true => exact absurd (hp c hpc) (by simp [hc])
  induction h with
  | nil => rfl
  | mark hc _ ih => rw [List.any_cons, List.any_cons, ih]
  | @other c cs ds row hc _ hrow _ ih =>
    have hnone : row.any p = false := List.any_eq_false.2 fun d hd => by simp [hother d (hrow d hd)]
    rw [List.any_append, List.any_cons, hnone, hother c hc, ih]

theorem head? (hm : isMark m = true) (h : SameMarks isMark cs ds) :
    ds.head? = some m ↔ cs.head? = some m := by
  cases h with
  | nil => rfl
  | mark => rfl
  | other hc hrow hall =>
    obtain ⟨d, row, rfl⟩ := List.exists_cons_of_ne_nil hrow
    have hd := hall d List.mem_cons_self
    simp [ne_of_not_isMark hm hc, ne_of_not_isMark hm hd]

theorem getLast? (hm : isMark m = true) (h : SameMarks isMark cs ds) :
    ds.getLast? = some m ↔ cs.getLast? = some m := by
  induction h with
  | nil => rfl
  | @mark c cs ds hc h ih =>
    have hnil := h.eq_nil_iff
    rcases eq_or_ne cs [] with rfl | hcs
    · rw [hnil.2 rfl]
    · obtain ⟨e, es, rfl⟩ := List.exists_cons_of_ne_nil hcs
      obtain ⟨f, fs, rfl⟩ := List.exists_cons_of_ne_nil (mt hnil.1 hcs)
      rw [List.getLast?_cons_cons, List.getLast?_cons_cons]
      exact ih
  | @other c cs ds row hc hrow hall h ih =>
    have hnil := h.eq_nil_iff
    rcases eq_or_ne cs [] with rfl | hcs
    · have hlast := hall _ (List.getLast_mem hrow)
      rw [hnil.2 rfl, List.append_nil, List.getLast?_eq_some_getLast hrow]
      simp [ne_of_not_isMark hm hc, ne_of_not_isMark hm hlast]
    · obtain ⟨e, es, rfl⟩ := List.exists_cons_of_ne_nil hcs
      rw [List.getLast?_append_of_ne_nil row (mt hnil.1 hcs), List.getLast?_cons_cons]
      exact ih

/-- Cut at a mark, both texts give as many pieces, and those have the same marks. -/
theorem splitAtChar (hm : isMark m = true) (h : SameMarks isMark cs ds) :
    List.Forall₂ (SameMarks isMark) (Text.splitAtChar m cs) (Text.splitAtChar m ds) := by
  induction h with
  | nil => exact .cons .nil .nil
  | @mark c cs ds hc h ih =>
    by_cases heq : c = m
    · rw [Text.splitAtChar, if_pos heq, Text.splitAtChar, if_pos heq]
      exact .cons .nil ih
    · obtain ⟨piece, rest, hcs⟩ := splitAtChar_eq_cons m cs
      obtain ⟨piece', rest', hds⟩ := splitAtChar_eq_cons m ds
      rw [hcs, hds] at ih
      obtain ⟨hpiece, hrest⟩ := List.forall₂_cons.1 ih
      have hall : ∀ d ∈ [c], d ≠ m := by simpa using heq
      rw [← List.singleton_append, splitAtChar_append hall hcs, ← List.singleton_append (l := ds),
        splitAtChar_append hall hds]
      exact .cons (.mark hc hpiece) hrest
  | @other c cs ds row hc hrow hall h ih =>
    obtain ⟨piece, rest, hcs⟩ := splitAtChar_eq_cons m cs
    obtain ⟨piece', rest', hds⟩ := splitAtChar_eq_cons m ds
    rw [hcs, hds] at ih
    obtain ⟨hpiece, hrest⟩ := List.forall₂_cons.1 ih
    have hone : ∀ d ∈ [c], d ≠ m := by simpa using ne_of_not_isMark hm hc
    rw [← List.singleton_append, splitAtChar_append hone hcs,
      splitAtChar_append (fun d hd => ne_of_not_isMark hm (hall d hd)) hds]
    exact .cons (.other hc hrow hall hpiece) hrest

theorem startsWith_singleton (m : Char) (cs : List Char) :
    startsWith cs [m] = decide (cs.head? = some m) := by
  cases cs with
  | nil => rfl
  | cons c cs => simp [startsWith, beq_eq_decide]

/-- Whether a mark stands side by side with itself. -/
theorem holds_pair (hm : isMark m = true) (h : SameMarks isMark cs ds) :
    holds ds [m, m] = holds cs [m, m] := by
  have hother : ∀ {c}, isMark c = false → ∀ es, holds (c :: es) [m, m] = holds es [m, m] := by
    intro c hc es
    have hne : (c == m) = false := beq_eq_false_iff_ne.2 (ne_of_not_isMark hm hc)
    rw [holds, startsWith, hne, Bool.false_and, Bool.false_or]
  induction h with
  | nil => rfl
  | mark hc h ih =>
    rw [holds, holds, ih, startsWith, startsWith, startsWith_singleton, startsWith_singleton,
      decide_eq_decide.2 (h.head? hm)]
  | @other c cs ds row hc _ hall _ ih =>
    have hrow : ∀ es : List Char, (∀ d ∈ es, isMark d = false) →
        holds (es ++ ds) [m, m] = holds ds [m, m] := by
      intro es hes
      induction es with
      | nil => rfl
      | cons e es ihes =>
        obtain ⟨he, hes⟩ := List.forall_mem_cons.1 hes
        rw [List.cons_append, hother he, ihes hes]
    rw [hrow row hall, hother hc, ih]

end SameMarks

/-! ## Marks that are no letters -/

/-- The point, the at sign and the blanks. -/
def markRanges : List CodeRange := (0x2E, 0x2E) :: (0x40, 0x40) :: blankRanges

/-- No rule for small forms speaks of a mark, and none gives one. -/
theorem marks_lowerRules : ∀ b ∈ markRanges, ∀ r ∈ lowerRules,
    (b.2 < r.first ∨ r.last < b.1) ∧
      ((r.last + r.shift).toNat < b.1 ∨ b.2 < (r.first + r.shift).toNat) := by
  decide +kernel

theorem inRanges_marks_of_isBlank {c : Char} (h : isBlank c = true) :
    inRanges markRanges c = true := by
  obtain ⟨b, hb, hin⟩ := inRanges_iff.1 h
  exact inRanges_iff.2 ⟨b, List.mem_cons_of_mem _ (List.mem_cons_of_mem _ hb), hin⟩

theorem isSmall_of_mark {c : Char} (h : inRanges markRanges c = true) : IsSmall c :=
  isSmall_of_inRanges (fun b hb r hr => (marks_lowerRules b hb r hr).1) (by decide) h

/-- What comes of a character that is no mark is none. -/
theorem not_mark_applyRules {c : Char} (h : inRanges markRanges c = false) :
    inRanges markRanges (applyRules lowerRules c) = false := by
  unfold applyRules
  cases hrule : lowerRules.findSome? (·.image? c.toNat) with
  | none => exact h
  | some n =>
    obtain ⟨r, hr, hn⟩ := List.exists_of_findSome?_eq_some hrule
    obtain ⟨⟨hfirst, hlast, -⟩, hplace⟩ := CaseRule.image?_eq_some.1 hn
    have hcode := toNat_of_lowerRules hr hn
    apply Bool.eq_false_iff.2
    intro hmark
    obtain ⟨b, hb, hin⟩ := inRanges_iff.1 hmark
    have hclear := (marks_lowerRules b hb r hr).2
    dsimp only at hin
    omega

theorem not_mark_of_mem_lowerChar {c d : Char} (hmark : inRanges markRanges c = false)
    (hd : d ∈ lowerChar c) : inRanges markRanges d = false := by
  unfold lowerChar at hd
  split at hd
  · obtain rfl | hd := List.mem_cons.1 hd
    · decide
    · rw [List.mem_singleton.1 hd]
      decide
  · rw [List.mem_singleton.1 hd]
    exact not_mark_applyRules hmark

theorem lowerFrom_sameMarks (before cs : List Char) :
    SameMarks (inRanges markRanges) cs (lowerFrom before cs) := by
  induction cs generalizing before with
  | nil => exact .nil
  | cons c cs ih =>
    rw [lowerFrom]
    cases hmark : inRanges markRanges c with
    | true =>
      obtain ⟨hsigma, hself⟩ := isSmall_of_mark hmark
      rw [if_neg hsigma, hself]
      exact .mark hmark (ih _)
    | false =>
      refine .other hmark ?_ ?_ (ih _)
      · split
        · simp
        · unfold lowerChar
          split <;> simp
      · intro d hd
        split at hd
        · rw [List.mem_singleton.1 hd]
          split <;> decide
        · exact not_mark_of_mem_lowerChar hmark hd

/-- A text and its small form have the same points, at signs and blanks. -/
theorem lower_sameMarks (s : String) :
    SameMarks (inRanges markRanges) s.toList (lower s).toList := by
  rw [lower, String.toList_ofList]
  exact lowerFrom_sameMarks [] s.toList

end Parley.Text
