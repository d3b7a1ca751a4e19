import Parley.Answer.Format
import Parley.Proofs.Answer.CheckDigits
import Parley.Proofs.Flow.Labels
import Parley.Proofs.Text.Marks
import Parley.Proofs.Text.Spelling

/-!
# Answers in their clean form

A test and the way of cleaning what passed it are two functions of a format. They agree: what is kept
of an answer that passed passes itself, without blanks around it, and is its own clean form
(`Format.isClean_clean`). So the verdict on a clean form is that form again (`judge_cleaned`).

For an address this hangs on points, at signs and blanks, which it has in common with its small form
(`isEmail_lower`). For a telephone number it hangs on its length: a country code is taken off a number
of twelve or thirteen digits, and what is left has ten or eleven (`length_of_isPhone`).
-/

namespace Parley

open Text

namespace Answer

variable {s : String}

/-! ## Addresses -/

/-- The small form of an address is one. -/
theorem isEmail_lower (h : isEmail s = true) : isEmail (lower s) = true := by
  have hmarks := lower_sameMarks s
  have hat : inRanges markRanges '@' = true := by decide
  have hpoint : inRanges markRanges '.' = true := by decide
  unfold isEmail at h ⊢
  obtain ⟨hblank, hparts⟩ := Bool.and_eq_true_iff.1 h
  have hsplit := hmarks.splitAtChar hat
  refine Bool.and_eq_true_iff.2 ⟨?_, ?_⟩
  · rw [hmarks.any_eq fun c => inRanges_marks_of_isBlank]
    exact hblank
  · split at hparts
    · rename_i name domain hcut
      rw [hcut] at hsplit
      obtain ⟨name', pieces, hname, hpieces, hcut'⟩ := List.forall₂_cons_left_iff.1 hsplit
      obtain ⟨domain', rest, hdomain, hrest, hpieces'⟩ := List.forall₂_cons_left_iff.1 hpieces
      rw [hcut', hpieces', List.forall₂_nil_left_iff.1 hrest]
      have hsome : domain'.contains '.' = domain.contains '.' := by
        rw [List.contains_eq_any_beq, List.contains_eq_any_beq]
        refine hdomain.any_eq fun c hc => ?_
        rw [← beq_iff_eq.1 hc]
        exact hpoint
      have hempty : name'.isEmpty = name.isEmpty := by
        rw [Bool.eq_iff_iff, List.isEmpty_iff, List.isEmpty_iff, hname.eq_nil_iff]
      have hfirst : (domain'.head? != some '.') = (domain.head? != some '.') := by
        rw [bne, bne, Bool.eq_iff_iff]
        simp [hdomain.head? hpoint]
      have hlast : (domain'.getLast? != some '.') = (domain.getLast? != some '.') := by
        rw [bne, bne, Bool.eq_iff_iff]
        simp [hdomain.getLast? hpoint]
      dsimp only
      rw [hempty, hsome, hfirst, hlast, hdomain.holds_pair hpoint]
      exact hparts
    · cases hparts

theorem isUnbroken_of_isEmail (h : isEmail s = true) : IsUnbroken s := by
  unfold isEmail at h
  have hblank := (Bool.and_eq_true_iff.1 h).1
  rw [Bool.not_eq_true'] at hblank
  intro c hc
  exact Bool.eq_false_iff.2 (List.any_eq_false.1 hblank c hc)

/-! ## Telephone numbers -/

theorem isDigit_of_mem_phoneDigits {c : Char} (h : c ∈ phoneDigits s) : isDigit c = true := by
  have hmem : c ∈ s.toList.filter isDigit := by
    unfold phoneDigits at h
    dsimp only at h
    split at h
    · exact List.mem_of_mem_drop h
    · exact h
  exact (List.mem_filter.1 hmem).2

/-- A telephone number has ten digits or eleven. -/
theorem length_of_isPhone (h : isPhone s = true) :
    (phoneDigits s).length = 10 ∨ (phoneDigits s).length = 11 := by
  unfold isPhone at h
  split at h
  · rename_i a b n rest hdigits
    rw [hdigits]
    simp only [Bool.and_eq_true] at h
    obtain ⟨-, hrest⟩ := h
    simp only [List.length_cons]
    split at hrest
    · omega
    · have hseven : rest.length = 7 := by
        simp only [Bool.and_eq_true, decide_eq_true_eq] at hrest
        exact hrest.1.1
      omega
  · cases h

/-- Ten or eleven digits are kept as they are. -/
theorem phoneDigits_cleanPhone (h : isPhone s = true) : phoneDigits (cleanPhone s) = phoneDigits s := by
  have hfilter : (phoneDigits s).filter isDigit = phoneDigits s :=
    List.filter_eq_self.2 fun c => isDigit_of_mem_phoneDigits
  have hlength := length_of_isPhone h
  have hshort : ¬ (((phoneDigits s).length = 12 ∨ (phoneDigits s).length = 13) ∧
      startsWith (phoneDigits s) ['5', '5'] = true) := by
    rintro ⟨hlong, -⟩
    omega
  rw [phoneDigits.eq_1 (cleanPhone s), cleanPhone, String.toList_ofList, hfilter]
  exact if_neg hshort

/-! ## Plates -/

theorem toNat_lt_of_ascii {c : Char} (h : (isAsciiLetter c || isAsciiDigit c) = true) :
    c.toNat < 128 := by
  have hbounds : ∀ {a b : Char}, (decide (a ≤ c) && decide (c ≤ b)) = true → c.toNat ≤ b.toNat := by
    intro a b hc
    exact of_decide_eq_true (Bool.and_eq_true_iff.1 hc).2
  obtain hletter | hdigit := Bool.or_eq_true_iff.1 h
  · obtain hsmall | hcapital := Bool.or_eq_true_iff.1 hletter
    · exact Nat.lt_of_le_of_lt (hbounds hsmall) (by decide)
    · exact Nat.lt_of_le_of_lt (hbounds hcapital) (by decide)
  · exact Nat.lt_of_le_of_lt (hbounds hdigit) (by decide)

/-- Letters and digits, in their capital form, are kept as they are. -/
theorem asciiCapital_kept {c : Char} (h : (isAsciiLetter c || isAsciiDigit c) = true) :
    (isAsciiLetter (asciiCapital c) || isAsciiDigit (asciiCapital c)) = true ∧
      asciiCapital (asciiCapital c) = asciiCapital c ∧ isBlank (asciiCapital c) = false := by
  obtain ⟨n, hn, rfl⟩ : ∃ n < 128, c = Char.ofNat n :=
    ⟨c.toNat, toNat_lt_of_ascii h, (Char.ofNat_toNat c).symm⟩
  revert n
  decide

theorem kept_of_mem_plateChars {c : Char} (h : c ∈ plateChars s) :
    (isAsciiLetter c || isAsciiDigit c) = true ∧ asciiCapital c = c ∧ isBlank c = false := by
  obtain ⟨d, hd, rfl⟩ := List.mem_map.1 h
  exact asciiCapital_kept (List.mem_filter.1 hd).2

theorem plateChars_cleanPlate (s : String) : plateChars (cleanPlate s) = plateChars s := by
  have hfilter : (plateChars s).filter (fun c => isAsciiLetter c || isAsciiDigit c) =
      plateChars s := List.filter_eq_self.2 fun c hc => (kept_of_mem_plateChars hc).1
  rw [plateChars.eq_1 (cleanPlate s), cleanPlate, String.toList_ofList, hfilter]
  have hmap : (plateChars s).map asciiCapital = (plateChars s).map id :=
    List.map_congr_left fun c hc => (kept_of_mem_plateChars hc).2.1
  rw [hmap, List.map_id]

/-! ## Formats -/

/-- A text that is its own clean form: without blanks around it, not empty, and accepted. -/
structure Format.IsClean (format : Format) (s : String) : Prop where
  stripped : strip s = s
  ne_empty : s ≠ ""
  accepted : format.accepts s = true
  cleaned : format.clean s = s

theorem Format.IsClean.judge {format : Format} (h : format.IsClean s) :
    judge format s = .accepted s := by
  unfold Answer.judge
  dsimp only
  rw [h.stripped, if_neg h.ne_empty, if_pos h.accepted, h.cleaned]

theorem ofList_ne_empty {cs : List Char} (h : cs ≠ []) : String.ofList cs ≠ "" := by
  intro hempty
  exact h (by simpa using congrArg String.toList hempty)

theorem isClean_lower (h : isEmail s = true) : Format.email.IsClean (lower s) := by
  have hsmall := isEmail_lower h
  have hkept : strip (lower s) = lower s := strip_of_isUnbroken (isUnbroken_of_isEmail hsmall)
  refine ⟨hkept, ?_, hsmall, ?_⟩
  · intro hempty
    rw [hempty] at hsmall
    cases hsmall
  · rw [Format.clean, hkept, lower_lower]

theorem isClean_cleanPhone (h : isPhone s = true) : Format.phone.IsClean (cleanPhone s) := by
  have hdigits := phoneDigits_cleanPhone h
  have hunbroken : IsUnbroken (cleanPhone s) := by
    intro c hc
    rw [cleanPhone, String.toList_ofList] at hc
    exact not_isBlank_of_isDigit (isDigit_of_mem_phoneDigits hc)
  refine ⟨strip_of_isUnbroken hunbroken, ofList_ne_empty ?_, ?_, ?_⟩
  · intro hnil
    have hlength := length_of_isPhone h
    rw [hnil] at hlength
    simp at hlength
  · show isPhone (cleanPhone s) = true
    unfold isPhone
    rw [hdigits]
    exact h
  · show String.ofList (phoneDigits (cleanPhone s)) = cleanPhone s
    rw [hdigits, cleanPhone]

theorem isClean_cleanPlate (h : isPlate s = true) : Format.plate.IsClean (cleanPlate s) := by
  have hchars := plateChars_cleanPlate s
  have hunbroken : IsUnbroken (cleanPlate s) := by
    intro c hc
    rw [cleanPlate, String.toList_ofList] at hc
    exact (kept_of_mem_plateChars hc).2.2
  refine ⟨strip_of_isUnbroken hunbroken, ofList_ne_empty ?_, ?_, ?_⟩
  · intro hnil
    unfold isPlate at h
    rw [hnil] at h
    cases h
  · show isPlate (cleanPlate s) = true
    unfold isPlate
    rw [hchars]
    exact h
  · show String.ofList (plateChars (cleanPlate s)) = cleanPlate s
    rw [hchars, cleanPlate]

theorem isClean_onlyDigits {d : Document} (h : (d.check s).isOk = true) :
    (Format.document d).IsClean (onlyDigits s) := by
  have hdigits : (onlyDigits s).toList.filter isDigit = s.toList.filter isDigit := by
    rw [onlyDigits, String.toList_ofList, List.filter_filter]
    simp
  refine ⟨strip_of_isUnbroken (isUnbroken_onlyDigits s), ofList_ne_empty ?_, ?_, ?_⟩
  · intro hnil
    unfold Document.check at h
    rw [hnil] at h
    cases d <;> cases h
  · show (d.check (onlyDigits s)).isOk = true
    unfold Document.check
    rw [hdigits]
    exact h
  · show String.ofList ((onlyDigits s).toList.filter isDigit) = onlyDigits s
    rw [hdigits, onlyDigits]

/-- What is kept of a text that has a format is its own clean form. -/
theorem Format.isClean_clean {format : Format} (hstripped : strip s = s) (hne : s ≠ "")
    (h : format.accepts s = true) : format.IsClean (format.clean s) := by
  cases format with
  | anything => exact ⟨hstripped, hne, h, rfl⟩
  | email =>
    rw [Format.clean, hstripped]
    exact isClean_lower h
  | phone => exact isClean_cleanPhone h
  | number =>
    rw [Format.clean, hstripped]
    exact ⟨hstripped, hne, h, hstripped⟩
  | plate => exact isClean_cleanPlate h
  | document d => exact isClean_onlyDigits h

theorem strip_empty : strip "" = "" := by decide

/-- An answer that is accepted is blank, and nothing is kept of it, or it passes the test of the
format, and its clean form is kept. -/
theorem judge_eq_accepted {format : Format} {answer cleaned : String}
    (h : judge format answer = .accepted cleaned) :
    strip answer = "" ∧ cleaned = "" ∨ strip answer ≠ "" ∧
      format.accepts (strip answer) = true ∧ cleaned = format.clean (strip answer) := by
  unfold judge at h
  by_cases hblank : strip answer = ""
  · rw [if_pos hblank] at h
    cases h
    exact .inl ⟨hblank, rfl⟩
  · rw [if_neg hblank] at h
    by_cases haccepted : format.accepts (strip answer) = true
    · rw [if_pos haccepted] at h
      cases h
      exact .inr ⟨hblank, haccepted, rfl⟩
    · rw [if_neg haccepted] at h
      cases h

/-- Whatever format a name asks for, an answer that is accepted is accepted again in its clean form,
and that is its own clean form. -/
theorem judge_cleaned (name : String) {answer cleaned : String}
    (h : judge (.ofName name) answer = .accepted cleaned) :
    judge (.ofName name) cleaned = .accepted cleaned := by
  generalize Format.ofName name = format at h ⊢
  obtain ⟨-, rfl⟩ | ⟨hne, haccepted, rfl⟩ := judge_eq_accepted h
  · unfold judge
    exact if_pos strip_empty
  · exact (Format.isClean_clean (strip_strip answer) hne haccepted).judge

/-- An address whose small form is longer than itself. -/
theorem judge_cleaned_dotted :
    judge (.ofName " EMAIL ") "  Ana.İ@Email.com " = .accepted "ana.i\u0307@email.com" ∧
      judge (.ofName " EMAIL ") "ana.i\u0307@email.com" = .accepted "ana.i\u0307@email.com" := by
  have haccepted : judge (.ofName " EMAIL ") "  Ana.İ@Email.com " =
      .accepted "ana.i\u0307@email.com" := by decide
  exact ⟨haccepted, judge_cleaned " EMAIL " haccepted⟩

end Answer

end Parley
