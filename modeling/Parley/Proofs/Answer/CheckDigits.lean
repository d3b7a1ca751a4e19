import Parley.Answer.Document
import Parley.Proofs.Calendar.Written

/-!
# The check digits of a document number

Whatever the digits in front of them, there is one pair of check digits, and it is a pair of digits:
a remainder of ten never shows (`checkDigits_lt`). A number is good just where it ends with that
pair and does not repeat one digit (`check_eq_ok_iff`), so that a good number is not good any more
when its check digits are changed. All but the digits of a number is passed over: what is put
between them changes nothing (`Spaced.check_eq`).
-/

namespace Parley.Answer.Document

open Text

/-! ## Both check digits are digits -/

theorem complementDigit_lt (sum : Nat) : complementDigit sum < 10 := by
  unfold complementDigit
  split <;> omega

theorem driverDigits_lt (digits : List Nat) :
    (driverDigits digits).1 < 10 ∧ (driverDigits digits).2 < 10 := by
  have hten (n : Nat) : (if 10 ≤ n then 0 else n) < 10 := by
    split <;> omega
  exact ⟨hten _, hten _⟩

theorem checkDigits_lt (d : Document) (digits : List Nat) :
    (d.checkDigits digits).1 < 10 ∧ (d.checkDigits digits).2 < 10 := by
  cases d with
  | cnh => exact driverDigits_lt digits
  | cpf | cnpj => exact ⟨complementDigit_lt _, complementDigit_lt _⟩

/-! ## Digits and their values -/

/-- There is a digit of every value below ten. -/
theorem exists_digit {n : Nat} (h : n < 10) : ∃ c, isAsciiDigit c = true ∧ digitValue c = n := by
  have hall : ∀ n < 10, isAsciiDigit (Char.ofNat (48 + n)) = true ∧
      digitValue (Char.ofNat (48 + n)) = n := by decide
  exact ⟨_, hall n h⟩

/-- Digits of one script are told apart by their values. -/
theorem eq_of_digitValue_eq {a b : Char} (ha : isAsciiDigit a = true) (hb : isAsciiDigit b = true)
    (h : digitValue a = digitValue b) : a = b := by
  obtain ⟨ha48, hav⟩ := digitValue_of_isAsciiDigit ha
  obtain ⟨hb48, hbv⟩ := digitValue_of_isAsciiDigit hb
  apply Char.toNat_inj.1
  omega

/-! ## What makes a number good -/

theorem two_le_length (d : Document) : 2 ≤ d.length := by
  cases d <;> decide

/-- A number is good just where it is as long as it should be, does not repeat one digit, and ends
with the check digits of what stands before them. -/
theorem check_eq_ok_iff {d : Document} {number cs : List Char} {a b : Char}
    (h : number.filter isDigit = cs ++ [a, b]) :
    d.check (String.ofList number) = .ok () ↔
      cs.length = d.length - 2 ∧ isRepeated (cs ++ [a, b]) = false ∧
        (digitValue a, digitValue b) = d.checkDigits (cs.map digitValue) := by
  have htwo := d.two_le_length
  unfold check
  simp only [String.toList_ofList, h]
  by_cases hlength : cs.length = d.length - 2
  · have hall : (cs ++ [a, b]).length = d.length := by
      simp [hlength]
      omega
    rw [if_neg (not_not_intro hall)]
    by_cases hrepeated : isRepeated (cs ++ [a, b]) = true
    · simp [hrepeated]
    · -- what is left to compare are the last two digits
      rw [if_neg hrepeated]
      have htake : ((cs ++ [a, b]).map digitValue).take (d.length - 2) = cs.map digitValue := by
        simp [← hlength]
      have hdrop : ((cs ++ [a, b]).map digitValue).drop (d.length - 2) =
          [digitValue a, digitValue b] := by
        simp [← hlength]
      rw [htake, hdrop]
      obtain ⟨first, second⟩ := d.checkDigits (cs.map digitValue)
      dsimp only
      split <;> simp_all
  · have hall : (cs ++ [a, b]).length ≠ d.length := by
      simp
      omega
    rw [if_pos hall]
    simp [hlength]

/-! ## What stands between the digits -/

/-- The second text is the first one with characters put in anywhere that are no digits. -/
inductive Spaced : List Char → List Char → Prop
  | nil : Spaced [] []
  | keep (c : Char) {cs ds : List Char} (h : Spaced cs ds) : Spaced (c :: cs) (c :: ds)
  | put {c : Char} {cs ds : List Char} (hc : isDigit c = false) (h : Spaced cs ds) :
    Spaced cs (c :: ds)

theorem Spaced.filter_eq {cs ds : List Char} (h : Spaced cs ds) :
    ds.filter isDigit = cs.filter isDigit := by
  induction h with
  | nil => rfl
  | keep c _ ih => simp only [List.filter_cons, ih]
  | put hc _ ih => simp [hc, ih]

theorem Spaced.check_eq {number other : String} (d : Document)
    (h : Spaced number.toList other.toList) : d.check other = d.check number := by
  unfold check
  rw [h.filter_eq]

/-! ## One pair of check digits -/

variable {d : Document}

/-- Behind a row of digits there is one pair of digits that can make the number good. -/
theorem exists_pair {cs : List Char} (hlength : cs.length = d.length - 2)
    (hcs : ∀ c ∈ cs, isAsciiDigit c = true) :
    ∃ a b, isAsciiDigit a = true ∧ isAsciiDigit b = true ∧
      ∀ a' b', isAsciiDigit a' = true → isAsciiDigit b' = true →
        (d.check (String.ofList (cs ++ [a', b'])) = .ok () ↔
          a' = a ∧ b' = b ∧ isRepeated (cs ++ [a, b]) = false) := by
  obtain ⟨hfirst, hsecond⟩ := d.checkDigits_lt (cs.map digitValue)
  obtain ⟨a, ha, hav⟩ := exists_digit hfirst
  obtain ⟨b, hb, hbv⟩ := exists_digit hsecond
  refine ⟨a, b, ha, hb, ?_⟩
  intro a' b' ha' hb'
  have hdigits : (cs ++ [a', b']).filter isDigit = cs ++ [a', b'] := by
    apply List.filter_eq_self.2
    intro c hc
    apply isDigit_of_isAsciiDigit
    simp only [List.mem_append, List.mem_cons, List.not_mem_nil, or_false] at hc
    obtain hc | rfl | rfl := hc
    · exact hcs c hc
    · exact ha'
    · exact hb'
  rw [check_eq_ok_iff hdigits]
  constructor
  · intro h
    obtain ⟨-, hrepeated, hpair⟩ := h
    have hfirst : digitValue a' = digitValue a := (congrArg Prod.fst hpair).trans hav.symm
    have hsecond : digitValue b' = digitValue b := (congrArg Prod.snd hpair).trans hbv.symm
    obtain rfl := eq_of_digitValue_eq ha' ha hfirst
    obtain rfl := eq_of_digitValue_eq hb' hb hsecond
    exact ⟨rfl, rfl, hrepeated⟩
  · intro h
    obtain ⟨rfl, rfl, hrepeated⟩ := h
    exact ⟨hlength, hrepeated, by rw [hav, hbv]⟩

theorem filter_pair {xs ys zs : List Char} {a b : Char} (ha : isDigit a = true)
    (hb : isDigit b = true) (hys : ∀ c ∈ ys, isDigit c = false) (hzs : ∀ c ∈ zs, isDigit c = false) :
    (xs ++ a :: ys ++ b :: zs).filter isDigit = xs.filter isDigit ++ [a, b] := by
  have hnone {cs : List Char} (h : ∀ c ∈ cs, isDigit c = false) : cs.filter isDigit = [] := by
    simpa using h
  simp [ha, hb, hnone hys, hnone hzs]

/-- The last two digits of good numbers are of the same values if all the others are the same. -/
theorem digitValue_eq_of_check {xs ys zs : List Char} {a b a' b' : Char}
    (hys : ∀ c ∈ ys, isDigit c = false) (hzs : ∀ c ∈ zs, isDigit c = false)
    (ha : isDigit a = true) (hb : isDigit b = true) (ha' : isDigit a' = true)
    (hb' : isDigit b' = true) (hgood : d.check (String.ofList (xs ++ a :: ys ++ b :: zs)) = .ok ())
    (hother : d.check (String.ofList (xs ++ a' :: ys ++ b' :: zs)) = .ok ()) :
    digitValue a' = digitValue a ∧ digitValue b' = digitValue b := by
  obtain ⟨-, -, hpair⟩ := (check_eq_ok_iff (filter_pair ha hb hys hzs)).1 hgood
  obtain ⟨-, -, hpair'⟩ := (check_eq_ok_iff (filter_pair ha' hb' hys hzs)).1 hother
  have hsame := hpair'.trans hpair.symm
  exact ⟨congrArg Prod.fst hsame, congrArg Prod.snd hsame⟩

/-- For any digits in front there is one pair of check digits that makes the number good, and no
other pair does, unless the number repeats one digit: then no pair does. So a good number is not good
with other check digits, whatever stands between and behind them, and characters that are no digits
can be put in anywhere without a change. -/
theorem check_one_pair (d : Document) :
    (∀ cs, cs.length = d.length - 2 → (∀ c ∈ cs, isAsciiDigit c = true) →
      ∃ a b, isAsciiDigit a = true ∧ isAsciiDigit b = true ∧
        ∀ a' b', isAsciiDigit a' = true → isAsciiDigit b' = true →
          (d.check (String.ofList (cs ++ [a', b'])) = .ok () ↔
            a' = a ∧ b' = b ∧ isRepeated (cs ++ [a, b]) = false)) ∧
    (∀ xs ys zs a b a' b', (∀ c ∈ ys, isDigit c = false) → (∀ c ∈ zs, isDigit c = false) →
      isDigit a = true → isDigit b = true → isDigit a' = true → isDigit b' = true →
      d.check (String.ofList (xs ++ a :: ys ++ b :: zs)) = .ok () →
      ¬ (digitValue a' = digitValue a ∧ digitValue b' = digitValue b) →
      d.check (String.ofList (xs ++ a' :: ys ++ b' :: zs)) ≠ .ok ()) ∧
    ∀ number other : String, Spaced number.toList other.toList →
      d.check other = d.check number := by
  refine ⟨fun cs => exists_pair, ?_, fun number other h => h.check_eq d⟩
  intro xs ys zs a b a' b' hys hzs ha hb ha' hb' hgood hne hother
  exact hne (digitValue_eq_of_check hys hzs ha hb ha' hb' hgood hother)

/-- A number of a person that is good, and one with another last digit. -/
theorem check_one_pair_person :
    Document.check .cpf "529.982.247-25" = .ok () ∧ Document.check .cpf "529.982.247-26" ≠ .ok () := by
  have hgood : Document.check .cpf "529.982.247-25" = .ok () := by decide
  have hother := (check_one_pair .cpf).2.1 "529.982.247-".toList [] [] '2' '5' '2' '6' (by simp)
    (by simp) (by decide) (by decide) (by decide) (by decide) hgood (by decide)
  exact ⟨hgood, hother⟩

end Parley.Answer.Document
