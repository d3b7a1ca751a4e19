import Mathlib.Algebra.BigOperators.Group.List.Basic
import Mathlib.Algebra.Order.Ring.Nat
import Parley.Calendar.Reader

/-!
# Moments as they are written

Every part of a moment is written with the same number of digits, the largest part first. So a
moment is read back as it was (`Moment.ofText?_text`), and where two clocks are equally far from
universal time, the texts of moments stand in the order of the moments (`Moment.text_le_text`). A
fraction of a second is left out where there is none: what stands in its place then, the end or the
sign of the distance from universal time, comes before a point.
-/

namespace Parley

open Text Calendar

/-! ## Rows of digits -/

theorem digitValue?_of_isAsciiDigit {c : Char} (h : isAsciiDigit c) :
    48 ≤ c.toNat ∧ digitValue? c = some (c.toNat - 48) := by
  have hc : 48 ≤ c.toNat ∧ c.toNat ≤ 57 := by
    simpa [isAsciiDigit, Char.le_def, UInt32.le_iff_toNat_le] using h
  have hfirst : 48 ≤ c.toNat ∧ c.toNat < 48 + 10 := by omega
  exact ⟨hc.1, by simp [digitValue?, zeroCodes, hfirst]⟩

theorem digitValue_of_isAsciiDigit {c : Char} (h : isAsciiDigit c) :
    48 ≤ c.toNat ∧ digitValue c = c.toNat - 48 := by
  obtain ⟨hc, hvalue⟩ := digitValue?_of_isAsciiDigit h
  exact ⟨hc, by rw [digitValue, hvalue, Option.getD_some]⟩

theorem isDigit_of_isAsciiDigit {c : Char} (h : isAsciiDigit c) : isDigit c := by
  rw [isDigit, (digitValue?_of_isAsciiDigit h).2, Option.isSome_some]

theorem isAsciiDigit_of_isDigit {c : Char} (h : c.isDigit) : isAsciiDigit c := by
  simpa [isAsciiDigit, Char.isDigit, Char.le_def] using h

/-- What has been read of a row of digits counts for all the places behind it. -/
theorem foldl_digitValue (cs : List Char) (n : Nat) :
    cs.foldl (fun n c => 10 * n + digitValue c) n = n * 10 ^ cs.length + digitsValue cs := by
  induction cs generalizing n with
  | nil => simp [digitsValue]
  | cons c cs ih =>
    have hrow : digitsValue (c :: cs) = digitValue c * 10 ^ cs.length + digitsValue cs := by
      show cs.foldl _ (10 * 0 + digitValue c) = _
      rw [ih, Nat.mul_zero, Nat.zero_add]
    rw [List.foldl_cons, ih, hrow, List.length_cons, Nat.pow_succ, Nat.add_mul, Nat.add_assoc]
    congr 1
    rw [Nat.mul_comm 10 n, Nat.mul_assoc, Nat.mul_comm 10]

theorem digitsValue_cons (c : Char) (cs : List Char) :
    digitsValue (c :: cs) = digitValue c * 10 ^ cs.length + digitsValue cs := by
  show cs.foldl _ (10 * 0 + digitValue c) = _
  rw [foldl_digitValue, Nat.mul_zero, Nat.zero_add]

theorem digitsValue_append (cs ds : List Char) :
    digitsValue (cs ++ ds) = digitsValue cs * 10 ^ ds.length + digitsValue ds := by
  unfold digitsValue
  rw [List.foldl_append]
  exact foldl_digitValue ds _

theorem digitsValue_lt (cs : List Char) : digitsValue cs < 10 ^ cs.length := by
  induction cs with
  | nil => decide
  | cons c cs ih =>
    have hc := digitValue_lt c
    rw [digitsValue_cons, List.length_cons, Nat.pow_succ]
    have hle : digitValue c * 10 ^ cs.length ≤ 9 * 10 ^ cs.length :=
      Nat.mul_le_mul_right _ (by omega)
    omega

theorem digitsValue_replicate (k : Nat) : digitsValue (List.replicate k '0') = 0 := by
  have hnought : digitValue '0' = 0 := by decide
  induction k with
  | zero => rfl
  | succ k ih => rw [List.replicate_succ, digitsValue_cons, ih, hnought, Nat.zero_mul]

theorem digitsValue_toDigits (n : Nat) : digitsValue (Nat.toDigits 10 n) = n := by
  have hdigits : ∀ (cs : List Char) (m : Nat), (∀ c ∈ cs, isAsciiDigit c) →
      cs.foldl (fun n c => 10 * n + digitValue c) m = Nat.ofDigitChars 10 cs m := by
    intro cs
    induction cs with
    | nil => intro m h; rfl
    | cons c cs ih =>
      intro m h
      have hc := digitValue_of_isAsciiDigit (h c List.mem_cons_self)
      rw [List.foldl_cons, ih _ fun d hd => h d (List.mem_cons_of_mem _ hd), hc.2]
      rfl
  have hten : ∀ c ∈ Nat.toDigits 10 n, isAsciiDigit c := fun c hc =>
    isAsciiDigit_of_isDigit (Nat.isDigit_of_mem_toDigits (by decide) (by decide) hc)
  exact (hdigits _ 0 hten).trans Nat.ofDigitChars_ten_toDigits

/-- Of two rows of as many digits the one of the smaller number comes first, whatever follows. -/
theorem append_lt_append_of_digitsValue {cs ds : List Char} (hlength : cs.length = ds.length)
    (hcs : cs.all isAsciiDigit) (hds : ds.all isAsciiDigit) (h : digitsValue cs < digitsValue ds)
    (s t : List Char) : cs ++ s < ds ++ t := by
  induction cs generalizing ds with
  | nil =>
    rw [List.length_eq_zero_iff.1 hlength.symm] at h
    exact absurd h (Nat.lt_irrefl _)
  | cons c cs ih =>
    cases ds with
    | nil => simp at hlength
    | cons d ds =>
      obtain ⟨hc, hcs⟩ : isAsciiDigit c = true ∧ cs.all isAsciiDigit := by simpa using hcs
      obtain ⟨hd, hds⟩ : isAsciiDigit d = true ∧ ds.all isAsciiDigit := by simpa using hds
      have hrest : cs.length = ds.length := by simpa using hlength
      obtain ⟨hc48, hc⟩ := digitValue_of_isAsciiDigit hc
      obtain ⟨hd48, hd⟩ := digitValue_of_isAsciiDigit hd
      rw [digitsValue_cons, digitsValue_cons, hrest] at h
      rw [List.cons_append, List.cons_append, List.cons_lt_cons_iff]
      -- The first digits decide, as what is behind them is less than one of their places.
      rcases Nat.lt_trichotomy (digitValue c) (digitValue d) with hlt | heq | hgt
      · left
        rw [Char.lt_def, UInt32.lt_iff_toNat_lt]
        show c.toNat < d.toNat
        omega
      · right
        rw [heq] at h
        exact ⟨Char.toNat_inj.1 (by omega), ih hrest hcs hds (by omega)⟩
      · have hplace := Nat.mul_le_mul_right (10 ^ ds.length) (Nat.succ_le_of_lt hgt)
        have hbehind := digitsValue_lt ds
        rw [Nat.succ_mul] at hplace
        omega

/-! ## Numbers with noughts in front -/

namespace Date

/-- The digits of a number that is written with noughts in front. -/
def places (width n : Nat) : List Char := (padded width n).toList

variable {width n m : Nat}

theorem places_eq (width n : Nat) : places width n =
    List.replicate (width - (Nat.toDigits 10 n).length) '0' ++ Nat.toDigits 10 n :=
  String.toList_ofList

theorem length_places (hw : 0 < width) (h : n < 10 ^ width) : (places width n).length = width := by
  have hle := (Nat.length_toDigits_le_iff (by decide) hw).2 h
  rw [places_eq, List.length_append, List.length_replicate]
  omega

theorem all_places (width n : Nat) : (places width n).all isAsciiDigit := by
  rw [places_eq, List.all_append, List.all_replicate, List.all_eq_true.2]
  · have hnought : isAsciiDigit '0' = true := by decide
    simp [hnought]
  · intro c hc
    exact isAsciiDigit_of_isDigit (Nat.isDigit_of_mem_toDigits (by decide) (by decide) hc)

theorem digitsValue_places (width n : Nat) : digitsValue (places width n) = n := by
  rw [places_eq, digitsValue_append, digitsValue_replicate, digitsValue_toDigits, Nat.zero_mul,
    Nat.zero_add]

/-- A number that is written with so many digits is read back, and the rest is left. -/
theorem takeDigits?_places (hw : 0 < width) (h : n < 10 ^ width) (rest : List Char) :
    takeDigits? width (places width n ++ rest) = some (n, rest) := by
  have hlength := length_places hw h
  have htake : (places width n ++ rest).take width = places width n :=
    List.take_left' hlength
  have hdrop : (places width n ++ rest).drop width = rest := List.drop_left' hlength
  unfold takeDigits?
  rw [htake, hdrop, if_pos ⟨hlength, all_places width n⟩, digitsValue_places]

/-- Numbers that are written with as many digits stand in their order; where they are equal, what
follows decides. -/
theorem places_append_lt (hw : 0 < width) (hm : m < 10 ^ width) {s t : List Char}
    (h : n < m ∨ n = m ∧ s < t) : places width n ++ s < places width m ++ t := by
  rcases h with h | ⟨rfl, h⟩
  · have hn : n < 10 ^ width := Nat.lt_trans h hm
    refine append_lt_append_of_digitsValue ?_ (all_places _ _) (all_places _ _) ?_ s t
    · rw [length_places hw hn, length_places hw hm]
    · rwa [digitsValue_places, digitsValue_places]
  · exact List.append_left_lt h

/-- The same with a mark behind the numbers. -/
theorem places_mark_lt (hw : 0 < width) (hm : m < 10 ^ width) (mark : Char) {s t : List Char}
    (h : n < m ∨ n = m ∧ s < t) :
    places width n ++ mark :: s < places width m ++ mark :: t := by
  refine places_append_lt hw hm (h.imp_right fun h => ⟨h.1, ?_⟩)
  exact List.cons_lt_cons_iff.2 (Or.inr ⟨rfl, h.2⟩)

end Date

/-! ## The count of days -/

theorem isLeap_iff (year : Nat) :
    isLeap year = true ↔ 4 ∣ year ∧ (100 ∣ year → 400 ∣ year) := by
  simp only [isLeap, Nat.dvd_iff_mod_eq_zero, Bool.and_eq_true, Bool.or_eq_true, beq_iff_eq,
    bne_iff_ne]
  omega

theorem daysBeforeYear_succ {year : Nat} (h : 1 ≤ year) :
    daysBeforeYear (year + 1) = daysBeforeYear year + 365 + if isLeap year then 1 else 0 := by
  obtain ⟨y, rfl⟩ : ∃ y, year = y + 1 := ⟨year - 1, by omega⟩
  have hfewer : y / 100 ≤ y / 4 := Nat.div_le_div_left (by decide) (by decide)
  have h100 : 100 ∣ y + 1 → 4 ∣ y + 1 := Nat.dvd_trans (by decide)
  have h400 : 400 ∣ y + 1 → 100 ∣ y + 1 := Nat.dvd_trans (by decide)
  simp only [daysBeforeYear, Nat.add_sub_cancel, Nat.succ_div, isLeap_iff]
  by_cases d4 : 4 ∣ y + 1
  · by_cases d100 : 100 ∣ y + 1
    · by_cases d400 : 400 ∣ y + 1
      · simp only [d4, d100, d400, if_true, true_and, imp_self]
        omega
      · simp only [d4, d100, d400, if_true, if_false, true_and, imp_false, not_true]
        omega
    · have d400 : ¬ 400 ∣ y + 1 := mt h400 d100
      simp only [d4, d100, d400, if_true, if_false, true_and, imp_self]
      omega
  · have d100 : ¬ 100 ∣ y + 1 := mt h100 d4
    have d400 : ¬ 400 ∣ y + 1 := mt h400 d100
    simp only [d4, d100, d400, if_false, false_and]
    omega

theorem daysBeforeYear_mono {a b : Nat} (ha : 1 ≤ a) (h : a ≤ b) :
    daysBeforeYear a ≤ daysBeforeYear b := by
  induction b, h using Nat.le_induction with
  | base => exact Nat.le_refl _
  | succ b h ih =>
    rw [daysBeforeYear_succ (Nat.le_trans ha h)]
    omega

theorem daysBeforeMonth_eq (year month : Nat) :
    daysBeforeMonth year month = ((monthLengths year).take (month - 1)).sum := rfl

theorem daysBeforeMonth_succ (year : Nat) {month : Nat} (h : 1 ≤ month) :
    daysBeforeMonth year (month + 1) = daysBeforeMonth year month + daysIn year month := by
  obtain ⟨m, rfl⟩ : ∃ m, month = m + 1 := ⟨month - 1, by omega⟩
  rw [daysBeforeMonth_eq, daysBeforeMonth_eq, daysIn, Nat.add_sub_cancel, Nat.add_sub_cancel,
    List.take_add_one, List.sum_append, List.getD_eq_getElem?_getD]
  cases (monthLengths year)[m]? <;> simp

theorem daysBeforeMonth_mono (year : Nat) {a b : Nat} (ha : 1 ≤ a) (h : a ≤ b) :
    daysBeforeMonth year a ≤ daysBeforeMonth year b := by
  induction b, h using Nat.le_induction with
  | base => exact Nat.le_refl _
  | succ b h ih =>
    rw [daysBeforeMonth_succ year (Nat.le_trans ha h)]
    omega

theorem daysBeforeMonth_thirteen (year : Nat) :
    daysBeforeMonth year 13 = 365 + if isLeap year then 1 else 0 := by
  rw [daysBeforeMonth_eq, monthLengths]
  cases isLeap year <;> rfl

namespace Date

/-- The last day of a year comes before the next year. -/
theorem number_le_daysBeforeYear (d : Date) : d.number ≤ daysBeforeYear (d.year + 1) := by
  obtain ⟨⟨hyear, -⟩, ⟨hmonth, hlast⟩, -, hday⟩ := d.exists_
  have hin := daysBeforeMonth_succ d.year hmonth
  have hrest := daysBeforeMonth_mono d.year (a := d.month + 1) (b := 13) (by omega)
    (by omega)
  rw [daysBeforeMonth_thirteen] at hrest
  rw [daysBeforeYear_succ hyear]
  unfold number
  omega

/-- Days are counted in the order of their years, months and days. -/
theorem number_lt {a b : Date} (h : a.year < b.year ∨ a.year = b.year ∧
    (a.month < b.month ∨ a.month = b.month ∧ a.day < b.day)) : a.number < b.number := by
  obtain ⟨-, -, hday, -⟩ := b.exists_
  rcases h with hyear | ⟨hyear, hmonth | ⟨hmonth, hday'⟩⟩
  · have hnext := daysBeforeYear_mono (a := a.year + 1) (by omega) hyear
    have hlast := a.number_le_daysBeforeYear
    unfold number at hlast ⊢
    omega
  · obtain ⟨-, ⟨hfirst, -⟩, -, hlast⟩ := a.exists_
    have hin := daysBeforeMonth_succ a.year hfirst
    have hnext := daysBeforeMonth_mono a.year (a := a.month + 1) (by omega) hmonth
    unfold number
    rw [← hyear]
    omega
  · unfold number
    rw [hyear, hmonth]
    omega

theorem lex_of_number_lt {a b : Date} (h : a.number < b.number) :
    a.year < b.year ∨ a.year = b.year ∧
      (a.month < b.month ∨ a.month = b.month ∧ a.day < b.day) := by
  refine Decidable.byContradiction fun hnot => ?_
  by_cases hsame : a.year = b.year ∧ a.month = b.month ∧ a.day = b.day
  · obtain ⟨hyear, hmonth, hday⟩ := hsame
    unfold number at h
    rw [hyear, hmonth, hday] at h
    exact Nat.lt_irrefl _ h
  · have hback := number_lt (a := b) (b := a) (by omega)
    omega

theorem eq_of_number_eq {a b : Date} (h : a.number = b.number) : a = b := by
  have hforth := mt (number_lt (a := a) (b := b)) (by omega)
  have hback := mt (number_lt (a := b) (b := a)) (by omega)
  exact Date.ext (by omega) (by omega) (by omega)

/-- The parts of a date have as many digits as are written of them. -/
theorem bounds (d : Date) : d.year < 10 ^ 4 ∧ d.month < 10 ^ 2 ∧ d.day < 10 ^ 2 := by
  obtain ⟨⟨-, hyear⟩, ⟨-, hmonth⟩, -, hday⟩ := d.exists_
  have hlength : daysIn d.year d.month ≤ 31 := by
    unfold daysIn
    rw [List.getD_eq_getElem?_getD]
    cases hm : (monthLengths d.year)[d.month - 1]? with
    | none => decide
    | some n =>
      have hmem := List.mem_of_getElem? hm
      simp only [monthLengths, List.mem_cons, List.not_mem_nil, or_false] at hmem
      have hfebruary : (if isLeap d.year then 29 else 28) ≤ 31 := by split <;> decide
      show n ≤ 31
      omega
  unfold maxYear at hyear
  omega

end Date

/-! ## Moments -/

theorem TimeOfDay.micros_lt (t : TimeOfDay) : t.micros < perDay := by
  obtain ⟨hhour, hminute, hsecond, hmicro⟩ := t.fits
  unfold micros perDay
  omega

theorem TimeOfDay.lex_of_micros_lt {a b : TimeOfDay} (h : a.micros < b.micros) :
    a.hour < b.hour ∨ a.hour = b.hour ∧ (a.minute < b.minute ∨ a.minute = b.minute ∧
      (a.second < b.second ∨ a.second = b.second ∧ a.micro < b.micro)) := by
  obtain ⟨-, haminute, hasecond, hamicro⟩ := a.fits
  obtain ⟨-, hbminute, hbsecond, hbmicro⟩ := b.fits
  unfold micros at h
  omega

theorem TimeOfDay.eq_of_micros_eq {a b : TimeOfDay} (h : a.micros = b.micros) : a = b := by
  obtain ⟨-, haminute, hasecond, hamicro⟩ := a.fits
  obtain ⟨-, hbminute, hbsecond, hbmicro⟩ := b.fits
  unfold micros at h
  exact TimeOfDay.ext (by omega) (by omega) (by omega) (by omega)

/-- A fraction of a second as it is written. -/
def TimeOfDay.fractionChars (micro : Nat) : List Char :=
  if micro = 0 then [] else '.' :: Date.places 6 micro

namespace Moment

open Date TimeOfDay

theorem parts_of_micros_lt {a b : Moment} (h : a.micros < b.micros) :
    a.date.number < b.date.number ∨ a.date = b.date ∧ a.time.micros < b.time.micros := by
  have hb := b.time.micros_lt
  unfold micros perDay at h
  unfold perDay at hb
  rcases Nat.lt_trichotomy a.date.number b.date.number with hlt | heq | hgt
  · exact Or.inl hlt
  · exact Or.inr ⟨eq_of_number_eq heq, by omega⟩
  · omega

/-- The distance of a clock from universal time as it is written. -/
def offsetChars (offset : Option Int) : List Char := ((offset.map offsetText).getD "").toList

theorem text_toList (m : Moment) : m.text.toList =
    places 4 m.date.year ++ '-' :: (places 2 m.date.month ++ '-' :: (places 2 m.date.day ++ 'T' ::
      (places 2 m.time.hour ++ ':' :: (places 2 m.time.minute ++ ':' :: (places 2 m.time.second ++
        (fractionChars m.time.micro ++ offsetChars m.offset)))))) := by
  have hfraction : (if m.time.micro = 0 then "" else "." ++ padded 6 m.time.micro).toList =
      fractionChars m.time.micro := by
    unfold fractionChars
    split
    · rfl
    · exact String.toList_append
  simp only [text, localText, Date.text, TimeOfDay.text, hourMinute, String.toList_append,
    hfraction, offsetChars, places]
  simp

theorem offsetChars_some (minutes : Int) : offsetChars (some minutes) =
    (if minutes < 0 then '-' else '+') ::
      (places 2 (minutes.natAbs / 60) ++ ':' :: places 2 (minutes.natAbs % 60)) := by
  simp only [offsetChars, Option.map_some, Option.getD_some, offsetText, String.toList_append,
    places]
  split <;> simp

/-- Whatever stands behind the seconds where there is no fraction comes before a point. -/
theorem offsetChars_lt (offset : Option Int) (rest : List Char) :
    offsetChars offset < '.' :: rest := by
  cases offset with
  | none => exact List.nil_lt_cons _ _
  | some minutes =>
    rw [offsetChars_some, List.cons_lt_cons_iff]
    left
    split <;> decide

theorem fraction_append_lt {a b : Nat} (h : a < b) (hb : b < 1000000) (offset : Option Int) :
    fractionChars a ++ offsetChars offset < fractionChars b ++ offsetChars offset := by
  unfold fractionChars
  rw [if_neg (by omega : ¬ b = 0), List.cons_append]
  split
  · exact offsetChars_lt _ _
  · rw [List.cons_append, List.cons_lt_cons_iff]
    exact Or.inr ⟨rfl, places_append_lt (by decide) hb (Or.inl h)⟩

/-- By clocks that agree, a later moment has a later text. -/
theorem text_lt_text {a b : Moment} (hoffset : a.offset = b.offset) (h : a.micros < b.micros) :
    a.text < b.text := by
  obtain ⟨hyears, hmonths, hdays⟩ := b.date.bounds
  obtain ⟨hhours, hminutes, hseconds, hmicros⟩ := b.time.fits
  rw [String.lt_iff, text_toList, text_toList, hoffset]
  rcases parts_of_micros_lt h with hdate | ⟨hdate, htime⟩
  · refine places_mark_lt (by decide) hyears '-' ((lex_of_number_lt hdate).imp_right ?_)
    refine And.imp_right fun h => places_mark_lt (by decide) hmonths '-' (h.imp_right ?_)
    exact And.imp_right fun h => places_mark_lt (by decide) hdays 'T' (Or.inl h)
  · rw [hdate]
    refine places_mark_lt (by decide) hyears '-' (Or.inr ⟨rfl, ?_⟩)
    refine places_mark_lt (by decide) hmonths '-' (Or.inr ⟨rfl, ?_⟩)
    refine places_mark_lt (by decide) hdays 'T' (Or.inr ⟨rfl, ?_⟩)
    refine places_mark_lt (by decide) (by omega) ':' ((lex_of_micros_lt htime).imp_right ?_)
    refine And.imp_right fun h => places_mark_lt (by decide) (by omega) ':' (h.imp_right ?_)
    refine And.imp_right fun h => places_append_lt (by decide) (by omega) (h.imp_right ?_)
    exact And.imp_right fun h => fraction_append_lt h hmicros _

/-- By clocks that agree, moments are told apart by the microseconds that have passed. -/
theorem eq_of_micros_eq {a b : Moment} (hoffset : a.offset = b.offset) (h : a.micros = b.micros) :
    a = b := by
  have ha := a.time.micros_lt
  have hb := b.time.micros_lt
  have hdate : a.date = b.date := by
    refine eq_of_number_eq ?_
    unfold micros perDay at h
    unfold perDay at ha hb
    omega
  have htime : a.time = b.time := by
    refine TimeOfDay.eq_of_micros_eq ?_
    unfold micros at h
    rw [hdate] at h
    exact Nat.add_left_cancel h
  exact Moment.ext hdate htime hoffset

/-- The moments of clocks that agree stand in the order of their texts. -/
theorem text_le_text {a b : Moment} (hoffset : a.offset = b.offset) (h : a.micros ≤ b.micros) :
    a.text ≤ b.text := by
  rcases Nat.lt_or_eq_of_le h with hlt | heq
  · exact String.not_lt.1 (String.lt_asymm (text_lt_text hoffset hlt))
  · obtain rfl := eq_of_micros_eq hoffset heq
    exact String.le_refl _

/-! ## Reading back -/

theorem fraction_fractionChars {micro : Nat} (h : micro < 1000000) (offset : Option Int) :
    fraction (fractionChars micro ++ offsetChars offset) = some (micro, offsetChars offset) := by
  have hdigitless : (offsetChars offset).takeWhile isAsciiDigit = [] := by
    cases offset with
    | none => rfl
    | some minutes =>
      rw [offsetChars_some, List.takeWhile_cons_of_neg]
      split <;> decide
  unfold fractionChars
  split
  · rename_i hzero
    subst hzero
    cases offset with
    | none => rfl
    | some minutes =>
      rw [offsetChars_some]
      split <;> rfl
  · have hlength : (places 6 micro).length = 6 := length_places (by decide) h
    have hplaces : (places 6 micro ++ offsetChars offset).takeWhile isAsciiDigit =
        places 6 micro := by
      rw [List.takeWhile_append_of_pos fun c hc => List.all_eq_true.1 (all_places 6 micro) c hc,
        hdigitless, List.append_nil]
    have hnonempty : (places 6 micro).isEmpty = false := by
      rw [List.isEmpty_eq_false_iff]
      intro hnil
      rw [hnil] at hlength
      cases hlength
    have hsix : ∀ cs, (places 6 micro ++ cs).take 6 = places 6 micro :=
      fun cs => List.take_left' hlength
    have hrest : (places 6 micro ++ offsetChars offset).drop (places 6 micro).length =
        offsetChars offset := List.drop_left' rfl
    simp [fraction, hplaces, hnonempty, hsix, hrest, digitsValue_places]

theorem frontDate_date (d : Date) (rest : List Char) :
    frontDate (places 4 d.year ++ '-' :: (places 2 d.month ++ '-' :: (places 2 d.day ++ rest))) =
      some (d, rest) := by
  obtain ⟨hyear, hmonth, hday⟩ := d.bounds
  have hreads := And.intro (takeDigits?_places (by decide) hyear)
    (And.intro (takeDigits?_places (by decide) hmonth) (takeDigits?_places (by decide) hday))
  have hexists : Date.of d.year d.month d.day = .ok d := dif_pos d.exists_
  simp [frontDate, twoDigits, skipHyphen?, hreads, hexists, Except.toOption]

theorem frontTime_time (t : TimeOfDay) (offset : Option Int) :
    frontTime (places 2 t.hour ++ ':' :: (places 2 t.minute ++ ':' :: (places 2 t.second ++
      (fractionChars t.micro ++ offsetChars offset)))) = some (t, offsetChars offset) := by
  have hfits := t.fits
  obtain ⟨hhour, hminute, hsecond, hmicro⟩ := hfits
  have hreads := And.intro (takeDigits?_places (n := t.hour) (by decide : 0 < 2) (by omega))
    (And.intro (takeDigits?_places (n := t.minute) (by decide : 0 < 2) (by omega))
      (takeDigits?_places (n := t.second) (by decide : 0 < 2) (by omega)))
  simp [frontTime, twoDigits, hreads, fraction_fractionChars hmicro, hhour, hminute, hsecond,
    hmicro]

theorem offsetOf?_places {hours minutes : Nat} (hhours : hours < 10 ^ 2) (hminutes : minutes < 60)
    (behind : Bool) :
    offsetOf? ((if behind then '-' else '+') :: (places 2 hours ++ ':' :: places 2 minutes)) =
      some (some (if behind then -((hours : Int) * 60 + minutes) else hours * 60 + minutes)) := by
  have hread := takeDigits?_places (n := minutes) (by decide : 0 < 2) (by omega) []
  rw [List.append_nil] at hread
  have hreads := And.intro (takeDigits?_places (by decide) hhours) hread
  cases behind <;> simp [offsetOf?, twoDigits, hreads, hminutes]

theorem offsetOf?_offsetChars {offset : Option Int} (h : isNear offset) :
    offsetOf? (offsetChars offset) = some offset := by
  cases offset with
  | none => rfl
  | some minutes =>
    have hnear : minutes.natAbs < 1440 := of_decide_eq_true h
    have hread := offsetOf?_places (by omega : minutes.natAbs / 60 < 10 ^ 2)
      (Nat.mod_lt minutes.natAbs (by decide)) (decide (minutes < 0))
    simp only [decide_eq_true_eq] at hread
    rw [offsetChars_some, hread]
    refine congrArg (fun n => some (some n)) ?_
    split <;> omega

/-- A moment is read back as it was written. -/
theorem ofText?_text (m : Moment) : ofText? m.text = some m := by
  have hnear := m.near
  unfold ofText?
  rw [text_toList]
  simp [frontDate_date, frontTime_time, isSeparator, offsetOf?_offsetChars, hnear]

theorem read_text (m : Moment) : read (.str m.text) = .ok m := by
  show readWritten m.text = _
  unfold readWritten
  rw [ofText?_text]

theorem text_ne_empty (m : Moment) : m.text ≠ "" := by
  intro hempty
  have hread := m.ofText?_text
  rw [hempty] at hread
  cases hread

end Moment

end Parley
