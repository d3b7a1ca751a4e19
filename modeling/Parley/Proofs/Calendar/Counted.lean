import Parley.Proofs.Calendar.Written

/-!
# Days counted forth and back

Every day has a count, and every count up to that of the last day of the last year is the count of
one day (`Date.exists_of_number`). So going on by some days gives the day whose count is so much
larger, and fails just where the calendar ends before it (`Date.plusDays_eq_ok_iff`,
`Date.plusDays_of_lastDay_lt`).
-/

namespace Parley

open Calendar

namespace Calendar

/-- The count of the last day of the last year. -/
def lastDay : Nat := daysBeforeYear (maxYear + 1)

example : lastDay = 3652059 := by decide

end Calendar

namespace Date

/-! ## The year of a count -/

theorem daysBeforeYear_lt_number (d : Date) : daysBeforeYear d.year < d.number := by
  obtain ⟨-, -, hday, -⟩ := d.exists_
  unfold number
  omega

theorem number_le_lastDay (d : Date) : d.number ≤ lastDay := by
  obtain ⟨⟨hyear, hlast⟩, -⟩ := d.exists_
  exact Nat.le_trans d.number_le_daysBeforeYear (daysBeforeYear_mono (by omega) (by omega))

/-- In 400 years there are 146097 days, and the days of fewer years differ from their share of these
by less than two. -/
theorem daysBeforeYear_near (y : Nat) : 400 * daysBeforeYear (y + 1) ≤ 146097 * y + 396 ∧
    146097 * y ≤ 400 * daysBeforeYear (y + 1) + 699 := by
  have hfewer : y / 100 ≤ y / 4 := Nat.div_le_div_left (by decide) (by decide)
  unfold daysBeforeYear
  dsimp only
  rw [Nat.add_sub_cancel]
  omega

/-- The year found for a count begins before it, and the next one does not. -/
theorem yearOfNumber_spec {n : Nat} (h : 1 ≤ n) : 1 ≤ yearOfNumber n ∧
    daysBeforeYear (yearOfNumber n) < n ∧ n ≤ daysBeforeYear (yearOfNumber n + 1) := by
  -- The guess is the year itself, the one before or the one after.
  obtain ⟨y, hy⟩ : ∃ y, y = 400 * (n - 1) / 146097 := ⟨_, rfl⟩
  have hguess : 146097 * y ≤ 400 * (n - 1) ∧ 400 * (n - 1) < 146097 * (y + 1) := by omega
  unfold yearOfNumber
  dsimp only
  rw [← hy]
  clear hy
  by_cases hfar : n ≤ daysBeforeYear (y + 1)
  · rw [if_pos hfar, Nat.add_sub_cancel]
    have hpos : y ≠ 0 := by
      rintro rfl
      exact absurd h (Nat.not_le.2 (Nat.lt_succ_of_le hfar))
    obtain ⟨x, rfl⟩ : ∃ x, y = x + 1 := ⟨y - 1, by omega⟩
    have hbefore := (daysBeforeYear_near x).1
    exact ⟨by omega, by omega, hfar⟩
  · rw [if_neg hfar]
    by_cases hnear : daysBeforeYear (y + 1 + 1) < n
    · rw [if_pos hnear]
      have hbehind := (daysBeforeYear_near (y + 1 + 1)).2
      exact ⟨by omega, hnear, by omega⟩
    · rw [if_neg hnear]
      exact ⟨by omega, Nat.not_le.1 hfar, Nat.not_lt.1 hnear⟩

/-! ## The month of a day of the year -/

/-- A day of the year lies in the month found for it, so many days behind the months before. -/
theorem monthOfDay_spec {lengths : List Nat} {day : Nat} (m : Nat) (hday : 1 ≤ day)
    (h : day ≤ lengths.sum) : ∃ i, i < lengths.length ∧ (monthOfDay m day lengths).1 = m + i ∧
      (lengths.take i).sum + (monthOfDay m day lengths).2 = day ∧
      1 ≤ (monthOfDay m day lengths).2 ∧ (monthOfDay m day lengths).2 ≤ lengths.getD i 0 := by
  induction lengths generalizing m day with
  | nil =>
    rw [List.sum_nil] at h
    omega
  | cons len rest ih =>
    rw [List.sum_cons] at h
    unfold monthOfDay
    split
    · rename_i hin
      exact ⟨0, by simp, rfl, by simp, hday, hin⟩
    · obtain ⟨i, hi, hmonth, hsum, hfirst, hlast⟩ := ih (m + 1)
        (show 1 ≤ day - len by omega) (by omega)
      refine ⟨i + 1, by simpa using hi, by omega, ?_, hfirst, hlast⟩
      rw [List.take_succ_cons, List.sum_cons]
      omega

theorem sum_monthLengths (year : Nat) :
    (monthLengths year).sum = 365 + if isLeap year then 1 else 0 := by
  unfold monthLengths
  cases isLeap year <;> rfl

/-! ## Counts and days -/

/-- Every count is that of a day. -/
theorem exists_of_number {n : Nat} (h : 1 ≤ n) (hlast : n ≤ lastDay) :
    ∃ d, ofNumber n = .ok d ∧ d.number = n := by
  obtain ⟨hyear, hfirst, hnext⟩ := yearOfNumber_spec h
  have hlen := daysBeforeYear_succ hyear
  have hwithin : n - daysBeforeYear (yearOfNumber n) ≤ (monthLengths (yearOfNumber n)).sum := by
    rw [sum_monthLengths]
    omega
  obtain ⟨i, hi, hmonth, hsum, hday, hin⟩ := monthOfDay_spec 1 (by omega) hwithin
  have hmax : yearOfNumber n ≤ maxYear := by
    refine Nat.not_lt.1 fun hfar => ?_
    have hmono := daysBeforeYear_mono (a := maxYear + 1) (by omega) hfar
    unfold lastDay at hlast
    omega
  have htwelve : (monthLengths (yearOfNumber n)).length = 12 := rfl
  unfold ofNumber
  dsimp only
  generalize hpair : monthOfDay 1 (n - daysBeforeYear (yearOfNumber n))
    (monthLengths (yearOfNumber n)) = p at hmonth hsum hday hin
  obtain ⟨month, day⟩ := p
  dsimp only at hmonth hsum hday hin ⊢
  obtain rfl : month = i + 1 := by omega
  have hexists : Exists (yearOfNumber n) (i + 1) day :=
    ⟨⟨hyear, hmax⟩, ⟨by omega, by omega⟩, hday, hin⟩
  refine ⟨⟨yearOfNumber n, i + 1, day, hexists⟩, dif_pos hexists, ?_⟩
  show daysBeforeYear (yearOfNumber n) + daysBeforeMonth (yearOfNumber n) (i + 1) + day = n
  rw [daysBeforeMonth_eq, Nat.add_sub_cancel]
  omega

/-- Behind the last day there is none. -/
theorem ofNumber_of_lastDay_lt {n : Nat} (h : lastDay < n) : ∃ e, ofNumber n = .error e := by
  obtain ⟨hyear, hfirst, hnext⟩ := yearOfNumber_spec (n := n) (by omega)
  have hmax : maxYear < yearOfNumber n := by
    refine Nat.not_le.1 fun hnear => ?_
    have hmono := daysBeforeYear_mono (a := yearOfNumber n + 1) (b := maxYear + 1) (by omega)
      (by omega)
    unfold lastDay at h
    omega
  unfold ofNumber
  dsimp only
  generalize monthOfDay 1 (n - daysBeforeYear (yearOfNumber n)) (monthLengths (yearOfNumber n)) = p
  have hnone : ¬ Exists (yearOfNumber n) p.1 p.2 := by
    rintro ⟨⟨-, hle⟩, -⟩
    omega
  show ∃ e, of (yearOfNumber n) p.1 p.2 = .error e
  unfold of
  rw [dif_neg hnone, if_pos (.inr hmax)]
  exact ⟨_, rfl⟩

/-- A day is found by its count. -/
theorem ofNumber_number (d : Date) : ofNumber d.number = .ok d := by
  have hfirst := d.daysBeforeYear_lt_number
  obtain ⟨e, he, hnumber⟩ := exists_of_number (by omega) d.number_le_lastDay
  rw [he, eq_of_number_eq hnumber]

/-- The day so many days later is the one whose count is so much larger. -/
theorem plusDays_eq_ok_iff {d e : Date} {days : Nat} :
    d.plusDays days = .ok e ↔ e.number = d.number + days := by
  constructor
  · intro h
    have hfirst := d.daysBeforeYear_lt_number
    by_cases hlast : d.number + days ≤ lastDay
    · obtain ⟨f, hf, hnumber⟩ := exists_of_number (by omega) hlast
      rw [plusDays, hf] at h
      cases h
      exact hnumber
    · obtain ⟨f, hf⟩ := ofNumber_of_lastDay_lt (Nat.not_le.1 hlast)
      rw [plusDays, hf] at h
      cases h
  · intro h
    rw [plusDays, ← h, ofNumber_number]

theorem plusDays_of_lastDay_lt {d : Date} {days : Nat} (h : lastDay < d.number + days) :
    d.plusDays days = .error .momentOutOfRange := by
  obtain ⟨e, he⟩ := ofNumber_of_lastDay_lt h
  rw [plusDays, he]

theorem exists_plusDays {d : Date} {days : Nat} (h : d.number + days ≤ lastDay) :
    ∃ e, d.plusDays days = .ok e ∧ e.number = d.number + days := by
  have hfirst := d.daysBeforeYear_lt_number
  obtain ⟨e, -, hnumber⟩ := exists_of_number (by omega) h
  exact ⟨e, plusDays_eq_ok_iff.2 hnumber, hnumber⟩

end Date

end Parley
