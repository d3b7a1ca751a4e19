import Parley.Text.Blank
import Parley.Text.Case
import Parley.Text.Digit

/-!
# Words and small letters

What is small stays small: no rule for small forms speaks of a character that another one gives
(`CaseRule.image?_of_clears`), and a small form holds no capital sigma, whose own small form hangs on
its surroundings (`IsSmall`). So to take the small form of a text twice is to take it once
(`lower_lower`), also where blanks are put around it in between (`lower_padded`).

No word of a text holds a blank (`isUnbroken_of_mem_words`). A text without blanks is its own single
word (`words_of_isUnbroken`), and there is nothing to strip from it (`strip_of_isUnbroken`). The
blanks around a text count for nothing (`words_padded`).
-/

namespace Parley.Text

variable {c : Char} {cs : List Char} {s before after : String}

/-! ## Rules -/

/-- No place in the row that the rule `r` gives is one that the rule `q` speaks of: the rows lie
apart, or the places of the one fall between those of the other. -/
def CaseRule.clears (r q : CaseRule) : Bool :=
  Nat.blt (r.last + r.shift).toNat q.first || Nat.blt q.last (r.first + r.shift).toNat ||
    (Nat.beq q.step 2 && (Nat.beq r.step 2 || Nat.beq r.first r.last) &&
      Nat.beq (((r.first + r.shift).toNat - q.first) % 2) 1)

theorem CaseRule.image?_eq_some {r : CaseRule} {n m : Nat} :
    r.image? n = some m ↔
      (r.first ≤ n ∧ n ≤ r.last ∧ (n - r.first) % r.step = 0) ∧ m = (n + r.shift).toNat := by
  unfold image?
  split
  · simp [*, eq_comm]
  · simp [*]

theorem CaseRule.image?_of_clears {r q : CaseRule} {n m : Nat} (h : r.clears q = true)
    (hm : r.image? n = some m) : q.image? m = none := by
  obtain ⟨⟨hfirst, hlast, hstep⟩, rfl⟩ := image?_eq_some.1 hm
  simp only [clears, Bool.or_eq_true, Bool.and_eq_true, Nat.blt_eq, Nat.beq_eq] at h
  unfold image?
  apply if_neg
  intro ⟨hq, hq', hplace⟩
  obtain (h | h) | ⟨⟨hqstep, hr⟩, hodd⟩ := h
  · omega
  · omega
  · rw [hqstep] at hplace
    obtain hr | hr := hr
    · rw [hr] at hstep
      omega
    · omega

theorem clears_lowerRules : (lowerRules.all fun r => lowerRules.all r.clears) = true := by
  decide +kernel

-- The rules are more than the usual depth of recursion reaches.
set_option maxRecDepth 1000 in
/-- The rows that the rules give hold characters, and not the one whose small form is two. -/
theorem images_lowerRules : ∀ r ∈ lowerRules,
    (r.last + r.shift).toNat < 0xD800 ∧ ((r.last + r.shift).toNat < 0x130 ∨
        0x130 < (r.first + r.shift).toNat) ∨
      0xDFFF < (r.first + r.shift).toNat ∧ (r.last + r.shift).toNat < 0x110000 := by
  decide

set_option maxRecDepth 1000 in
theorem blank_of_lowerRules :
    ∀ b ∈ blankRanges, ∀ r ∈ lowerRules, b.2 < r.first ∨ r.last < b.1 := by
  decide

/-! ## Small letters -/

/-- A character that is its own small form, whatever stands around it. -/
def IsSmall (c : Char) : Prop := c ≠ 'Σ' ∧ lowerChar c = [c]

theorem isSmall_of_findSome? (hdot : c ≠ 'İ')
    (h : lowerRules.findSome? (·.image? c.toNat) = none) : IsSmall c := by
  refine ⟨?_, ?_⟩
  · intro hc
    subst hc
    exact absurd h (by decide)
  · rw [lowerChar, if_neg hdot, applyRules, h]

/-- What a rule gives is a character of that code. -/
theorem toNat_of_lowerRules {r : CaseRule} (hr : r ∈ lowerRules) {n m : Nat}
    (hm : r.image? n = some m) : (Char.ofNat m).toNat = m := by
  obtain ⟨⟨hfirst, hlast, -⟩, hplace⟩ := CaseRule.image?_eq_some.1 hm
  have hrow := images_lowerRules r hr
  have hvalid : m.isValidChar := by
    unfold Nat.isValidChar
    omega
  rw [Char.ofNat, dif_pos hvalid]
  rfl

theorem isSmall_applyRules (hdot : c ≠ 'İ') : IsSmall (applyRules lowerRules c) := by
  cases hrule : lowerRules.findSome? (·.image? c.toNat) with
  | none =>
    rw [applyRules, hrule]
    exact isSmall_of_findSome? hdot hrule
  | some m =>
    obtain ⟨r, hr, hm⟩ := List.exists_of_findSome?_eq_some hrule
    obtain ⟨⟨hfirst, hlast, -⟩, hplace⟩ := CaseRule.image?_eq_some.1 hm
    have hrow := images_lowerRules r hr
    have hcode := toNat_of_lowerRules hr hm
    rw [applyRules, hrule]
    dsimp only
    apply isSmall_of_findSome?
    · intro h
      have hdotted : (Char.ofNat m).toNat = 0x130 := by rw [h]; rfl
      omega
    · rw [hcode, List.findSome?_eq_none_iff]
      intro q hq
      have hall := clears_lowerRules
      rw [List.all_eq_true] at hall
      exact CaseRule.image?_of_clears (List.all_eq_true.1 (hall r hr) q hq) hm

/-- The characters that come of a letter with a dot, and those of a letter with two small forms. -/
theorem isSmall_specials : IsSmall 'i' ∧ IsSmall '\u0307' ∧ IsSmall 'ς' ∧ IsSmall 'σ' := by
  unfold IsSmall
  decide

theorem isSmall_of_mem_lowerChar {d : Char} (h : d ∈ lowerChar c) : IsSmall d := by
  unfold lowerChar at h
  split at h
  · simp only [List.mem_cons, List.not_mem_nil, or_false] at h
    obtain rfl | rfl := h
    · exact isSmall_specials.1
    · exact isSmall_specials.2.1
  · rw [List.mem_singleton] at h
    exact h ▸ isSmall_applyRules ‹_›

/-- A character of a table that no rule speaks of. -/
theorem isSmall_of_inRanges {table : List CodeRange}
    (htable : ∀ b ∈ table, ∀ r ∈ lowerRules, b.2 < r.first ∨ r.last < b.1)
    (hdot : inRanges table 'İ' = false) (h : inRanges table c = true) : IsSmall c := by
  obtain ⟨b, hb, hfirst, hlast⟩ := inRanges_iff.1 h
  apply isSmall_of_findSome?
  · intro hc
    subst hc
    exact absurd h (by simp [hdot])
  · rw [List.findSome?_eq_none_iff]
    intro r hr
    apply if_neg
    have := htable b hb r hr
    omega

theorem isSmall_of_isBlank (h : isBlank c = true) : IsSmall c :=
  isSmall_of_inRanges blank_of_lowerRules (by decide) h

theorem isSmall_of_mem_lowerFrom {before : List Char} (h : c ∈ lowerFrom before cs) :
    IsSmall c := by
  induction cs generalizing before with
  | nil => cases h
  | cons d cs ih =>
    obtain h | h := List.mem_append.1 h
    · split at h
      · obtain ⟨-, -, hfinal, hinner⟩ := isSmall_specials
        split at h
        · exact List.mem_singleton.1 h ▸ hfinal
        · exact List.mem_singleton.1 h ▸ hinner
      · exact isSmall_of_mem_lowerChar h
    · exact ih h

theorem isSmall_of_mem_lower (h : c ∈ (lower s).toList) : IsSmall c := by
  rw [lower, String.toList_ofList] at h
  exact isSmall_of_mem_lowerFrom h

theorem lowerFrom_of_isSmall {before : List Char} (h : ∀ c ∈ cs, IsSmall c) :
    lowerFrom before cs = cs := by
  induction cs generalizing before with
  | nil => rfl
  | cons c cs ih =>
    obtain ⟨hc, hcs⟩ := List.forall_mem_cons.1 h
    rw [lowerFrom, if_neg hc.1, hc.2, ih hcs]
    rfl

/-- A text of small characters is its own small form. -/
theorem lower_of_isSmall (h : ∀ c ∈ s.toList, IsSmall c) : lower s = s := by
  rw [lower, lowerFrom_of_isSmall h, String.ofList_toList]

/-- The small form of a small form is that form again. -/
theorem lower_lower (s : String) : lower (lower s) = lower s :=
  lower_of_isSmall fun _ => isSmall_of_mem_lower

theorem isAllBlank_iff : isAllBlank s = true ↔ ∀ c ∈ s.toList, isBlank c = true :=
  List.all_eq_true

/-- A small form stays as it is when blanks are put around it. -/
theorem lower_padded (hbefore : isAllBlank before = true) (hafter : isAllBlank after = true)
    (s : String) : lower (before ++ lower s ++ after) = before ++ lower s ++ after := by
  apply lower_of_isSmall
  intro c hc
  rw [String.toList_append, String.toList_append, List.mem_append, List.mem_append] at hc
  obtain (hc | hc) | hc := hc
  · exact isSmall_of_isBlank (isAllBlank_iff.1 hbefore c hc)
  · exact isSmall_of_mem_lower hc
  · exact isSmall_of_isBlank (isAllBlank_iff.1 hafter c hc)

/-! ## Words -/

/-- No blank stands in the text. -/
def IsUnbroken (s : String) : Prop := ∀ c ∈ s.toList, isBlank c = false

instance (s : String) : Decidable (IsUnbroken s) :=
  List.decidableBAll (fun c => isBlank c = false) s.toList

theorem stripFront_of_unbroken (h : ∀ c ∈ cs, isBlank c = false) :
    stripFront cs = cs := by
  cases cs with
  | nil => rfl
  | cons c cs => exact List.dropWhile_cons_of_neg (by simp [h c List.mem_cons_self])

/-- There is nothing to strip from a text without blanks. -/
theorem strip_of_isUnbroken (h : IsUnbroken s) : strip s = s := by
  unfold strip stripChars stripBack
  rw [stripFront_of_unbroken h]
  have hback : s.toList.reverse.dropWhile isBlank = s.toList.reverse :=
    stripFront_of_unbroken fun c hc => h c (List.mem_reverse.1 hc)
  rw [hback, List.reverse_reverse, String.ofList_toList]

theorem isUnbroken_of_mem_wordsFrom {acc : List Char} (hacc : ∀ c ∈ acc, isBlank c = false)
    (h : s ∈ wordsFrom acc cs) : IsUnbroken s := by
  have hread : ∀ t ∈ if acc.isEmpty then [] else [String.ofList acc.reverse], IsUnbroken t := by
    intro t ht
    split at ht
    · cases ht
    · intro c hc
      rw [List.mem_singleton.1 ht, String.toList_ofList] at hc
      exact hacc c (List.mem_reverse.1 hc)
  induction cs generalizing acc with
  | nil => exact hread s h
  | cons c cs ih =>
    unfold wordsFrom at h
    split at h
    · obtain h | h := List.mem_append.1 h
      · exact hread s h
      · exact ih (by simp) h (by simp)
    · have hcons : ∀ d ∈ c :: acc, isBlank d = false :=
        List.forall_mem_cons.2 ⟨Bool.eq_false_iff.2 ‹_›, hacc⟩
      apply ih hcons h
      intro t ht d hd
      rw [List.mem_singleton.1 ht, String.toList_ofList] at hd
      exact hcons d (List.mem_reverse.1 hd)

/-- A word holds no blank. -/
theorem isUnbroken_of_mem_words {w : String} (h : w ∈ words s) : IsUnbroken w :=
  isUnbroken_of_mem_wordsFrom (by simp) h

theorem wordsFrom_of_isBlank {ds : List Char} (h : ∀ c ∈ ds, isBlank c = true) (cs : List Char) :
    wordsFrom [] (ds ++ cs) = wordsFrom [] cs := by
  induction ds with
  | nil => rfl
  | cons d ds ih =>
    obtain ⟨hd, hds⟩ := List.forall_mem_cons.1 h
    rw [List.cons_append, wordsFrom, if_pos hd]
    exact ih hds

theorem wordsFrom_append {acc ds : List Char} (h : ∀ c ∈ ds, isBlank c = true) :
    wordsFrom acc (cs ++ ds) = wordsFrom acc cs := by
  induction cs generalizing acc with
  | nil =>
    cases ds with
    | nil => rfl
    | cons d ds =>
      obtain ⟨hd, hds⟩ := List.forall_mem_cons.1 h
      have hrest := wordsFrom_of_isBlank hds []
      rw [List.append_nil] at hrest
      rw [List.nil_append, wordsFrom.eq_2, if_pos hd, hrest]
      exact List.append_nil _
  | cons c cs ih =>
    rw [List.cons_append, wordsFrom, wordsFrom, ih, ih]

/-- Blanks around a text count for nothing. -/
theorem words_padded (hbefore : isAllBlank before = true) (hafter : isAllBlank after = true)
    (s : String) : words (before ++ s ++ after) = words s := by
  unfold words
  rw [String.toList_append, String.toList_append, wordsFrom_append (isAllBlank_iff.1 hafter),
    wordsFrom_of_isBlank (isAllBlank_iff.1 hbefore)]

theorem wordsFrom_of_isUnbroken {acc : List Char} (h : ∀ c ∈ cs, isBlank c = false)
    (hne : acc.reverse ++ cs ≠ []) : wordsFrom acc cs = [String.ofList (acc.reverse ++ cs)] := by
  induction cs generalizing acc with
  | nil =>
    rw [wordsFrom, if_neg (by simpa using hne), List.append_nil]
  | cons c cs ih =>
    obtain ⟨hc, hcs⟩ := List.forall_mem_cons.1 h
    have hacc : (c :: acc).reverse ++ cs = acc.reverse ++ c :: cs := by simp
    rw [wordsFrom, if_neg (by simp [hc]), ih hcs (hacc ▸ hne), hacc]

/-- A text without blanks is its own single word. -/
theorem words_of_isUnbroken (h : IsUnbroken s) (hne : s ≠ "") : words s = [s] := by
  have hlist : s.toList ≠ [] := fun hnil => hne (String.toList_eq_nil_iff.1 hnil)
  rw [words, wordsFrom_of_isUnbroken h (by simpa using hlist)]
  simp

/-! ## Digits -/

/-- No row of digits holds a blank. -/
theorem blank_of_zeroCodes : ∀ b ∈ blankRanges, ∀ z ∈ zeroCodes, b.2 < z ∨ z + 10 ≤ b.1 := by
  decide

theorem not_isBlank_of_isDigit (h : isDigit c = true) : isBlank c = false := by
  unfold isDigit at h
  obtain ⟨d, hd⟩ := Option.isSome_iff_exists.1 h
  obtain ⟨z, hz, hrow⟩ := List.exists_of_findSome?_eq_some hd
  apply Bool.eq_false_iff.2
  intro hblank
  obtain ⟨b, hb, hfirst, hlast⟩ := inRanges_iff.1 hblank
  have hapart := blank_of_zeroCodes b hb z hz
  split at hrow
  · omega
  · cases hrow

theorem isUnbroken_onlyDigits (s : String) : IsUnbroken (onlyDigits s) := by
  intro c hc
  rw [onlyDigits, String.toList_ofList] at hc
  exact not_isBlank_of_isDigit (List.mem_filter.1 hc).2

end Parley.Text
