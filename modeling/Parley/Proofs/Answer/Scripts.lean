import Parley.Proofs.Answer.Cleaned

/-!
# Digits of several scripts

A telephone number and the number of a document are kept as the digits of the answer, and a digit of
any script is one. They are as many as the format asks for, but they are the ten ASCII digits only
where the answer holds no others, and a number that repeats one value is refused only where it
repeats one character (`digits_kept`). Digits of one script are told apart by their values
(`eq_of_noughtCode_eq`), so that a number of one value that is accepted mixes scripts.
-/

namespace Parley

open Text

namespace Text

variable {a b c : Char} {cs : List Char}

/-- The code of the nought of the script that a digit belongs to. -/
def noughtCode (c : Char) : Nat := c.toNat - digitValue c

theorem digitValue_le (c : Char) : digitValue c ≤ c.toNat := by
  unfold digitValue
  cases h : digitValue? c with
  | none => exact Nat.zero_le _
  | some d =>
    obtain ⟨z, -, hz⟩ := List.exists_of_findSome?_eq_some h
    split at hz
    · cases hz
      exact Nat.sub_le _ _
    · cases hz

/-- Digits of one script are told apart by their values. -/
theorem eq_of_noughtCode_eq (hscript : noughtCode a = noughtCode b)
    (hvalue : digitValue a = digitValue b) : a = b := by
  have ha := digitValue_le a
  have hb := digitValue_le b
  unfold noughtCode at hscript
  exact Char.toNat_inj.1 (by omega)

theorem noughtCode_of_isAsciiDigit (h : isAsciiDigit c = true) : noughtCode c = 48 := by
  obtain ⟨hfirst, hvalue⟩ := digitValue_of_isAsciiDigit h
  unfold noughtCode
  omega

/-- All digits of a text belong to one script. -/
def IsOneScript (s : String) : Prop :=
  ∀ a ∈ s.toList, ∀ b ∈ s.toList, noughtCode a = noughtCode b

/-- All digits of a text have one value. -/
def IsOneValue (s : String) : Prop := ∃ v, ∀ c ∈ s.toList, digitValue c = v

/-! ## The digits of an answer -/

section
variable {p : Char → Bool}

theorem filter_stripFront (hp : ∀ c, p c = true → isBlank c = false) (cs : List Char) :
    (stripFront cs).filter p = cs.filter p := by
  induction cs with
  | nil => rfl
  | cons c cs ih =>
    cases hblank : isBlank c with
    | true =>
      have hc : p c = false := Bool.eq_false_iff.2 fun hc => by simp [hp c hc] at hblank
      rw [stripFront, List.dropWhile_cons_of_pos hblank, List.filter_cons_of_neg (by simp [hc])]
      exact ih
    | false => rw [stripFront, List.dropWhile_cons_of_neg (by simp [hblank])]

/-- Nothing is stripped from a text but blanks. -/
theorem filter_strip (hp : ∀ c, p c = true → isBlank c = false) (s : String) :
    (strip s).toList.filter p = s.toList.filter p := by
  have hback : ∀ cs : List Char, (stripBack cs).filter p = cs.filter p := by
    intro cs
    have hfront := filter_stripFront hp cs.reverse
    unfold stripFront at hfront
    rw [stripBack, List.filter_reverse, hfront, ← List.filter_reverse, List.reverse_reverse]
  rw [strip, String.toList_ofList, stripChars, hback, filter_stripFront hp]

end

end Text

namespace Answer

variable {format : Format} {answer cleaned s : String}

/-- How many digits are kept of an answer, in the formats that keep digits alone. -/
def Format.digitCounts : Format → List Nat
  | .phone => [10, 11]
  | .document .cpf => [11]
  | .document .cnpj => [14]
  | .document .cnh => [11]
  | _ => []

/-- A number that is accepted has its length and does not repeat one character. -/
theorem Document.of_isOk {d : Document} (h : (d.check s).isOk = true) :
    (onlyDigits s).toList.length = d.length ∧ isRepeated (onlyDigits s).toList = false := by
  rw [onlyDigits, String.toList_ofList]
  unfold check at h
  dsimp only at h
  split at h
  · cases h
  · rename_i hlength
    split at h
    · cases h
    · rename_i hrepeated
      exact ⟨not_ne_iff.1 hlength, Bool.eq_false_iff.2 hrepeated⟩

theorem exists_of_not_isRepeated {cs : List Char} (h : Document.isRepeated cs = false) :
    ∃ a ∈ cs, ∃ b ∈ cs, a ≠ b := by
  cases cs with
  | nil => cases h
  | cons c cs =>
    obtain ⟨d, hd, hne⟩ := List.all_eq_false.1 h
    refine ⟨d, List.mem_cons_of_mem _ hd, c, List.mem_cons_self, ?_⟩
    simpa using hne

/-- What is not kept of the digits of a telephone number is a country code in ASCII. -/
theorem digits_phone (s : String) : s.toList.filter isDigit = phoneDigits s ∨
    s.toList.filter isDigit = '5' :: '5' :: phoneDigits s := by
  unfold phoneDigits
  dsimp only
  split
  · rename_i hcode
    obtain ⟨rest, hrest⟩ := startsWith_iff.1 hcode.2
    right
    rw [hrest]
    rfl
  · exact .inl rfl

/-- The digits that are kept, before and behind what is left out in ASCII. -/
theorem digits_clean (hformat : format.digitCounts ≠ []) (s : String) :
    ∃ code : List Char, (∀ c ∈ code, isAsciiDigit c = true) ∧
      s.toList.filter isDigit = code ++ (format.clean s).toList := by
  cases format with
  | phone =>
    show ∃ code : List Char, _ ∧ _ = code ++ (cleanPhone s).toList
    rw [cleanPhone, String.toList_ofList]
    obtain h | h := digits_phone s
    · exact ⟨[], by simp, h⟩
    · exact ⟨['5', '5'], List.all_eq_true.1 (by decide), h⟩
  | document d => exact ⟨[], by simp, by simp [Format.clean, onlyDigits]⟩
  | anything | email | number | plate => exact absurd rfl hformat

theorem length_clean (hformat : format.digitCounts ≠ []) (h : format.accepts s = true) :
    (format.clean s).toList.length ∈ format.digitCounts := by
  cases format with
  | phone =>
    show (cleanPhone s).toList.length ∈ [10, 11]
    rw [cleanPhone, String.toList_ofList]
    simpa using length_of_isPhone h
  | document d =>
    show (onlyDigits s).toList.length ∈ _
    rw [(Document.of_isOk h).1]
    cases d <;> decide
  | anything | email | number | plate => exact absurd rfl hformat

/-- The number of a document that is accepted has two values in it, unless it mixes scripts. -/
theorem not_isOneValue {d : Document} (h : (d.check s).isOk = true)
    (hscript : IsOneScript (onlyDigits s)) : ¬ IsOneValue (onlyDigits s) := by
  rintro ⟨v, hv⟩
  obtain ⟨a, ha, b, hb, hne⟩ := exists_of_not_isRepeated (Document.of_isOk h).2
  exact hne (eq_of_noughtCode_eq (hscript a ha b hb) ((hv a ha).trans (hv b hb).symm))

/-- Of an answer that was given and accepted, the formats for telephone numbers and documents keep
digits alone, and as many as they ask for. Just where the answer holds no digits but ASCII ones, it
is ASCII digits that are kept, and in the number of a document not one value all over. A number of
one value mixes scripts. -/
theorem digits_kept (hformat : format.digitCounts ≠ []) (hgiven : strip answer ≠ "")
    (h : judge format answer = .accepted cleaned) :
    (∀ c ∈ cleaned.toList, isDigit c = true) ∧
    cleaned.toList.length ∈ format.digitCounts ∧
    ((∀ c ∈ cleaned.toList, isAsciiDigit c = true) ∧
        (∀ d, format = .document d → ¬ IsOneValue cleaned) ↔
      ∀ c ∈ answer.toList, isDigit c = true → isAsciiDigit c = true) ∧
    ∀ d, format = .document d → IsOneValue cleaned → ¬ IsOneScript cleaned := by
  obtain ⟨hblank, -⟩ | ⟨-, haccepted, rfl⟩ := judge_eq_accepted h
  · exact absurd hblank hgiven
  obtain ⟨code, hcode, hdigits⟩ := digits_clean hformat (strip answer)
  rw [filter_strip fun c => not_isBlank_of_isDigit] at hdigits
  have hmem : ∀ c, c ∈ answer.toList ∧ isDigit c = true ↔
      c ∈ code ∨ c ∈ (format.clean (strip answer)).toList := by
    intro c
    rw [← List.mem_filter, hdigits, List.mem_append]
  have hone : ∀ d, format = .document d → IsOneValue (format.clean (strip answer)) →
      ¬ IsOneScript (format.clean (strip answer)) := by
    rintro d rfl hvalue hscript
    have hok : (d.check (strip answer)).isOk = true := haccepted
    exact not_isOneValue hok hscript hvalue
  refine ⟨fun c hc => ((hmem c).2 (.inr hc)).2, length_clean hformat haccepted, ⟨?_, ?_⟩, hone⟩
  · rintro ⟨hascii, -⟩ c hc hdigit
    obtain hc | hc := (hmem c).1 ⟨hc, hdigit⟩
    · exact hcode c hc
    · exact hascii c hc
  · intro hanswer
    have hascii : ∀ c ∈ (format.clean (strip answer)).toList, isAsciiDigit c = true := by
      intro c hc
      obtain ⟨hin, hdigit⟩ := (hmem c).2 (.inr hc)
      exact hanswer c hin hdigit
    refine ⟨hascii, fun d hd hvalue => hone d hd hvalue fun a ha b hb => ?_⟩
    rw [noughtCode_of_isAsciiDigit (hascii a ha), noughtCode_of_isAsciiDigit (hascii b hb)]

/-- The number of a company in Arabic digits, which are kept. -/
theorem digits_kept_arabic :
    judge (.ofName "cnpj") "١١.٢٢٢.٣٣٣/٠٠٠١-٨١" = .accepted "١١٢٢٢٣٣٣٠٠٠١٨١" ∧
      (∀ c ∈ "١١٢٢٢٣٣٣٠٠٠١٨١".toList, isDigit c = true) ∧
      "١١٢٢٢٣٣٣٠٠٠١٨١".toList.length ∈ [14] := by
  have haccepted : judge (.ofName "cnpj") "١١.٢٢٢.٣٣٣/٠٠٠١-٨١" = .accepted "١١٢٢٢٣٣٣٠٠٠١٨١" := by
    decide
  have hname : Format.ofName "cnpj" = .document .cnpj := by decide
  rw [hname] at haccepted ⊢
  have hkept := digits_kept (by decide) (by decide) haccepted
  exact ⟨haccepted, hkept.1, hkept.2.1⟩

/-- A number of ones is not refused where the last of them belongs to another script: what is kept
is of one value, and not in ASCII. -/
theorem ones_of_two_scripts :
    judge (.ofName "cpf") "1111111111١" = .accepted "1111111111١" ∧
      (¬ ∀ c ∈ "1111111111١".toList, isAsciiDigit c = true) ∧ IsOneValue "1111111111١" := by
  have haccepted : judge (.ofName "cpf") "1111111111١" = .accepted "1111111111١" := by
    decide
  have hone : ("1111111111١".toList.all fun c => digitValue c == 1) = true := by decide
  refine ⟨haccepted, fun hascii => ?_, 1, fun c hc => beq_iff_eq.1 (List.all_eq_true.1 hone c hc)⟩
  exact absurd (hascii '١' (by decide)) (by decide)

end Answer

end Parley
