import Parley.Calendar.Opening
import Parley.Proofs.Calendar.Clock

/-!
# Openings, and the search for one

The hours of a day begin at a minute that its first holiday or its weekday tells (`Begins`), and an
opening is a moment at which the hours of its day begin (`IsOpening`). The search goes through the
days one by one: so far as it has come it has passed no opening that is still to come, and the first
one that it meets is the earliest (`openingAmong_searches`).
-/

namespace Parley

open Calendar ClockTime TimeOfDay

/-! ## Later days -/

namespace Moment

variable {a b : Moment}

/-- A moment of a later day is later. -/
theorem micros_lt_of_number_lt (h : a.date.number < b.date.number) : a.micros < b.micros := by
  have ha := a.time.micros_lt
  unfold micros perDay
  unfold perDay at ha
  omega

theorem number_le_of_micros_lt (h : a.micros < b.micros) : a.date.number ≤ b.date.number := by
  obtain hnumber | ⟨hdate, -⟩ := parts_of_micros_lt h
  · exact Nat.le_of_lt hnumber
  · rw [hdate]

theorem plusDays_eq_ok {days : Nat} (h : a.plusDays days = .ok b) :
    b.date.number = a.date.number + days ∧ b.offset = a.offset := by
  unfold plusDays at h
  cases hdate : a.date.plusDays days with
  | error e =>
    rw [hdate] at h
    cases h
  | ok date =>
    rw [hdate] at h
    cases h
    exact ⟨Date.plusDays_eq_ok_iff.1 hdate, rfl⟩

theorem exists_plusDays {days : Nat} (h : a.date.number + days ≤ lastDay) :
    ∃ b, a.plusDays days = .ok b := by
  obtain ⟨date, hdate, -⟩ := Date.exists_plusDays h
  refine ⟨{ a with date }, ?_⟩
  rw [plusDays, hdate]
  rfl

theorem plusDays_of_lastDay_lt {days : Nat} (h : lastDay < a.date.number + days) :
    a.plusDays days = .error .momentOutOfRange := by
  rw [plusDays, Date.plusDays_of_lastDay_lt h]
  rfl

end Moment

namespace Calendar

variable {c : Calendar} {now o p : Moment} {date : Date} {m : Nat}

/-! ## Times that are kept -/

/-- A time is that of a minute of the day. -/
def IsMinute (time : Option String) (m : Nat) : Prop :=
  m < minutesPerDay ∧ time = some (minuteText m)

/-- A time is kept in the one form of times, where there is one. -/
def IsKept (time : Option String) : Prop := time = none ∨ ∃ m, IsMinute time m

/-- The times at which a calendar opens are kept in the one form of times. -/
structure OpensOnMinutes (c : Calendar) : Prop where
  week : ∀ hours ∈ c.week, IsKept hours.opens
  holidays : ∀ h ∈ c.holidays, IsKept h.opens

theorem IsMinute.unique {time : Option String} {n : Nat} (hm : IsMinute time m)
    (hn : IsMinute time n) : m = n :=
  eq_of_minuteText_eq hm.1 hn.1 (Option.some.inj (hm.2.symm.trans hn.2))

theorem IsKept.isMinute {time : Option String} {s : String} (h : IsKept time)
    (hs : time = some s) : ∃ m, IsMinute time m ∧ s = minuteText m := by
  obtain rfl | ⟨m, hm⟩ := h
  · cases hs
  · exact ⟨m, hm, Option.some.inj (hs.symm.trans hm.2)⟩

/-! ## What holds on a day -/

/-- No holiday on the day changes its hours. -/
def IsUsual (c : Calendar) (date : Date) : Prop :=
  ∀ h, c.holidays.find? (·.isOn date) = some h →
    h.kind ≠ .holiday ∧ h.kind ≠ .closed ∧ h.kind ≠ .specialHours

/-- The hours of a day begin at a minute: hours of its own, where the first holiday on it gives it
some, and otherwise those that are first for its weekday, if they are in force and no holiday
changes them. -/
inductive Begins (c : Calendar) (date : Date) (m : Nat) : Prop
  | special {h : Holiday} (hfirst : c.holidays.find? (·.isOn date) = some h)
    (hkind : h.kind = .specialHours) (hopens : IsMinute h.opens m)
  | usual {hours : DayHours} (husual : c.IsUsual date)
    (hfirst : c.week.find? (·.weekday == Int.ofNat date.weekday) = some hours)
    (hactive : hours.isActive = true) (hopens : IsMinute hours.opens m)

theorem plan_of_closing {h : Holiday} (hfirst : c.holidays.find? (·.isOn date) = some h)
    (hkind : h.kind = .holiday ∨ h.kind = .closed) : c.plan date = .closed := by
  have hcloses : h.kind.closesDay = true := by
    obtain hkind | hkind := hkind <;> rw [hkind] <;> rfl
  unfold plan holiday?
  rw [hfirst]
  exact if_pos hcloses

theorem plan_of_special {h : Holiday} (hfirst : c.holidays.find? (·.isOn date) = some h)
    (hkind : h.kind = .specialHours) : c.plan date = .special h.opens h.closes := by
  have hopen : ¬ h.kind.closesDay = true := by rw [hkind]; decide
  unfold plan holiday?
  rw [hfirst]
  exact (if_neg hopen).trans (if_pos hkind)

theorem plan_of_isUsual (h : c.IsUsual date) : c.plan date = c.usualPlan date := by
  unfold plan holiday?
  cases hfirst : c.holidays.find? (·.isOn date) with
  | none => rfl
  | some first =>
    obtain ⟨hholiday, hclosed, hspecial⟩ := h first hfirst
    have hopen : ¬ first.kind.closesDay = true := by
      cases hkind : first.kind with
      | holiday => exact absurd hkind hholiday
      | closed => exact absurd hkind hclosed
      | specialHours | other => exact Bool.false_ne_true
    exact (if_neg hopen).trans (if_neg hspecial)

theorem usualPlan_of_active {hours : DayHours}
    (hfirst : c.week.find? (·.weekday == Int.ofNat date.weekday) = some hours)
    (hactive : hours.isActive = true) : c.usualPlan date = .usual hours := by
  unfold usualPlan
  rw [hfirst]
  exact if_pos hactive

/-- A holiday closes the day, gives it hours of its own or changes nothing. -/
theorem holiday_cases (c : Calendar) (date : Date) : c.IsUsual date ∨
    ∃ h, c.holidays.find? (·.isOn date) = some h ∧
      ((h.kind = .holiday ∨ h.kind = .closed) ∨ h.kind = .specialHours) := by
  by_cases husual : c.IsUsual date
  · exact .inl husual
  · right
    unfold IsUsual at husual
    push Not at husual
    obtain ⟨h, hfirst, hkind⟩ := husual
    refine ⟨h, hfirst, ?_⟩
    by_cases hholiday : h.kind = .holiday
    · exact .inl (.inl hholiday)
    · by_cases hclosed : h.kind = .closed
      · exact .inl (.inr hclosed)
      · exact .inr (hkind hholiday hclosed)

theorem openingTime?_of_begins (h : c.Begins date m) :
    m < minutesPerDay ∧ c.openingTime? date = some (minuteText m) := by
  have hne : (minuteText m != "") = true := bne_iff_ne.2 (minuteText_ne_empty m)
  unfold openingTime?
  cases h with
  | special hfirst hkind hopens =>
    rw [plan_of_special hfirst hkind]
    dsimp only
    rw [hopens.2]
    exact ⟨hopens.1, by simp [hne]⟩
  | usual husual hfirst hactive hopens =>
    rw [plan_of_isUsual husual, usualPlan_of_active hfirst hactive]
    dsimp only
    rw [hopens.2]
    exact ⟨hopens.1, by simp [hne]⟩

theorem OpensOnMinutes.begins_of_openingTime? (hc : c.OpensOnMinutes) {s : String}
    (h : c.openingTime? date = some s) : ∃ m, c.Begins date m ∧ s = minuteText m := by
  unfold openingTime? at h
  obtain husual | ⟨holiday, hfirst, hclosing | hspecial⟩ := c.holiday_cases date
  · rw [plan_of_isUsual husual] at h
    unfold usualPlan at h
    cases hfirst : c.week.find? (·.weekday == Int.ofNat date.weekday) with
    | none =>
      rw [hfirst] at h
      cases h
    | some hours =>
      rw [hfirst] at h
      dsimp only at h
      by_cases hactive : hours.isActive = true
      · rw [if_pos hactive] at h
        have hopens := (Option.filter_eq_some_iff.1 h).1
        obtain ⟨m, hm, hs⟩ := (hc.week hours (List.mem_of_find?_eq_some hfirst)).isMinute hopens
        exact ⟨m, .usual husual hfirst hactive hm, hs⟩
      · rw [if_neg hactive] at h
        cases h
  · rw [plan_of_closing hfirst hclosing] at h
    cases h
  · rw [plan_of_special hfirst hspecial] at h
    have hopens := (Option.filter_eq_some_iff.1 h).1
    obtain ⟨m, hm, hs⟩ := (hc.holidays holiday (List.mem_of_find?_eq_some hfirst)).isMinute hopens
    exact ⟨m, .special hfirst hspecial hm, hs⟩

theorem Begins.unique {n : Nat} (hm : c.Begins date m) (hn : c.Begins date n) : m = n := by
  obtain ⟨hmin, hopens⟩ := openingTime?_of_begins hm
  obtain ⟨hmin', hopens'⟩ := openingTime?_of_begins hn
  exact eq_of_minuteText_eq hmin hmin' (Option.some.inj (hopens.symm.trans hopens'))

/-! ## Openings -/

/-- A moment, by the clock that now goes by, at which the hours of its day begin. -/
def IsOpening (c : Calendar) (now o : Moment) : Prop :=
  ∃ m, c.Begins o.date m ∧ o.time = .ofMinute m ∧ o.offset = now.offset

/-- An opening that is still to come. -/
def Comes (c : Calendar) (now o : Moment) : Prop := c.IsOpening now o ∧ now.micros < o.micros

/-- The earliest of the openings to come that are near enough, if there are any. -/
def IsNext (c : Calendar) (now : Moment) (isNear : Moment → Prop) : Option Moment → Prop
  | some o => c.Comes now o ∧ isNear o ∧ ∀ p, c.Comes now p → isNear p → o.micros ≤ p.micros
  | none => ∀ p, c.Comes now p → ¬ isNear p

/-- A day has one opening at most. -/
theorem IsOpening.unique (ho : c.IsOpening now o) (hp : c.IsOpening now p)
    (hday : o.date.number = p.date.number) : o = p := by
  have hdate := Date.eq_of_number_eq hday
  obtain ⟨m, hm, htime, hoffset⟩ := ho
  obtain ⟨n, hn, htime', hoffset'⟩ := hp
  rw [hdate] at hm
  obtain rfl := hm.unique hn
  exact Moment.ext hdate (htime.trans htime'.symm) (hoffset.trans hoffset'.symm)

theorem IsNext.unique {isNear : Moment → Prop} {r r' : Option Moment}
    (h : c.IsNext now isNear r) (h' : c.IsNext now isNear r') : r = r' := by
  cases r with
  | none =>
    cases r' with
    | none => rfl
    | some o => exact absurd h'.2.1 (h o h'.1)
  | some o =>
    cases r' with
    | none => exact absurd h.2.1 (h' o h.1)
    | some p =>
      have hle := h.2.2 p h'.1 h'.2.1
      have hge := h'.2.2 o h.1 h.2.1
      obtain ⟨-, -, -, hoffset⟩ := h.1.1
      obtain ⟨-, -, -, hoffset'⟩ := h'.1.1
      exact congrArg some
        (Moment.eq_of_micros_eq (hoffset.trans hoffset'.symm) (Nat.le_antisymm hle hge))

/-! ## The search -/

/-- An opening to come that is at least so many days ahead. -/
def ComesFrom (c : Calendar) (now : Moment) (first : Nat) (o : Moment) : Prop :=
  c.Comes now o ∧ now.date.number + first ≤ o.date.number

/-- What a search ends with that goes through `count` days from the one `first` days ahead: the
earliest opening from there on, if it is on one of them. It fails where the calendar ends before they
do, and nothing opens until then. -/
def Searches (c : Calendar) (now : Moment) (first count : Nat) :
    Except Failure (Option Moment) → Prop
  | .ok (some o) => c.ComesFrom now first o ∧ o.date.number < now.date.number + first + count ∧
      ∀ p, c.ComesFrom now first p → o.micros ≤ p.micros
  | .ok none => (count = 0 ∨ now.date.number + first + count ≤ lastDay + 1) ∧
      ∀ p, c.ComesFrom now first p → now.date.number + first + count ≤ p.date.number
  | .error e => e = .momentOutOfRange ∧ lastDay + 1 < now.date.number + first + count ∧
      ∀ p, ¬ c.ComesFrom now first p

variable {days : Nat} {rest : List Nat} {day : Moment}

theorem openingAmong_cons_of_none (hplus : now.plusDays days = .ok day)
    (hopens : c.openingTime? day.date = none) :
    c.openingAmong now (days :: rest) = c.openingAmong now rest := by
  rw [openingAmong, hplus]
  dsimp only [bind, Except.bind]
  rw [hopens]

theorem openingAmong_cons_of_begins (hplus : now.plusDays days = .ok day)
    (hm : c.Begins day.date m) (ho : o = { day with time := .ofMinute m }) :
    c.openingAmong now (days :: rest) =
      if 0 < days || now.isBefore o then .ok (some o) else c.openingAmong now rest := by
  obtain ⟨hminute, hopens⟩ := openingTime?_of_begins hm
  rw [openingAmong, hplus]
  dsimp only [bind, Except.bind]
  rw [hopens]
  dsimp only
  rw [set_minuteText hminute, ← ho]

/-- What a search does on one day: it fails behind the end of the calendar, it ends with the opening
of the day, or it goes on where none of that day is to come. -/
theorem openingAmong_cons_cases (hc : c.OpensOnMinutes) (now : Moment) (days : Nat)
    (rest : List Nat) :
    (lastDay < now.date.number + days ∧
      c.openingAmong now (days :: rest) = .error .momentOutOfRange) ∨
    (∃ o, c.Comes now o ∧ o.date.number = now.date.number + days ∧
      c.openingAmong now (days :: rest) = .ok (some o)) ∨
    (now.date.number + days ≤ lastDay ∧
      (∀ p, c.Comes now p → p.date.number ≠ now.date.number + days) ∧
      c.openingAmong now (days :: rest) = c.openingAmong now rest) := by
  by_cases hend : lastDay < now.date.number + days
  · rw [openingAmong, Moment.plusDays_of_lastDay_lt hend]
    exact .inl ⟨hend, rfl⟩
  obtain ⟨day, hplus⟩ := Moment.exists_plusDays (Nat.not_lt.1 hend)
  obtain ⟨hnumber, hoffset⟩ := Moment.plusDays_eq_ok hplus
  cases hopens : c.openingTime? day.date with
  | none =>
    refine .inr (.inr ⟨Nat.not_lt.1 hend, ?_, openingAmong_cons_of_none hplus hopens⟩)
    rintro p ⟨⟨m, hm, -⟩, -⟩ hsame
    rw [Date.eq_of_number_eq (hsame.trans hnumber.symm)] at hm
    rw [(openingTime?_of_begins hm).2] at hopens
    cases hopens
  | some time =>
    obtain ⟨m, hm, -⟩ := hc.begins_of_openingTime? hopens
    obtain ⟨o, ho⟩ : ∃ o : Moment, o = { day with time := .ofMinute m } := ⟨_, rfl⟩
    have hopening : c.IsOpening now o := by
      rw [ho]
      exact ⟨m, hm, rfl, hoffset⟩
    have hday : o.date.number = now.date.number + days := by rw [ho, ← hnumber]
    rw [openingAmong_cons_of_begins hplus hm ho]
    by_cases hfound : (0 < days || now.isBefore o) = true
    · refine .inr (.inl ⟨o, ⟨hopening, ?_⟩, hday, if_pos hfound⟩)
      obtain hahead | hbefore := Bool.or_eq_true_iff.1 hfound
      · have hahead := of_decide_eq_true hahead
        exact Moment.micros_lt_of_number_lt (by omega)
      · exact of_decide_eq_true hbefore
    · refine .inr (.inr ⟨Nat.not_lt.1 hend, fun p hp hsame => hfound ?_, if_neg hfound⟩)
      rw [← hopening.unique hp.1 (hday.trans hsame.symm)] at hp
      exact Bool.or_eq_true_iff.2 (.inr (decide_eq_true hp.2))

/-- A search goes on where nothing to come opens on its first day. -/
theorem Searches.later {first count : Nat} {r : Except Failure (Option Moment)}
    (hday : now.date.number + first ≤ lastDay)
    (hpassed : ∀ p, c.Comes now p → p.date.number ≠ now.date.number + first)
    (h : c.Searches now (first + 1) count r) : c.Searches now first (count + 1) r := by
  have hfrom : ∀ p, c.ComesFrom now first p → c.ComesFrom now (first + 1) p := by
    intro p hp
    have hne := hpassed p hp.1
    have hle := hp.2
    exact ⟨hp.1, by omega⟩
  match r, h with
  | .ok (some o), ⟨⟨hcomes, hahead⟩, hin, hleast⟩ =>
    exact ⟨⟨hcomes, by omega⟩, by omega, fun p hp => hleast p (hfrom p hp)⟩
  | .ok none, ⟨hend, hnone⟩ =>
    refine ⟨.inr (by omega), fun p hp => ?_⟩
    have hlater := hnone p (hfrom p hp)
    omega
  | .error e, ⟨hfailure, hend, hnone⟩ =>
    exact ⟨hfailure, by omega, fun p hp => hnone p (hfrom p hp)⟩

/-- What a search through days in a row ends with. -/
theorem openingAmong_searches (hc : c.OpensOnMinutes) (now : Moment) (first count : Nat) :
    c.Searches now first count (c.openingAmong now (List.range' first count)) := by
  induction count generalizing first with
  | zero => exact ⟨.inl rfl, fun p hp => hp.2⟩
  | succ count ih =>
    rw [List.range'_succ]
    obtain ⟨hend, hsearch⟩ | ⟨o, hcomes, hday, hsearch⟩ | ⟨hday, hpassed, hsearch⟩ :=
      openingAmong_cons_cases hc now first (List.range' (first + 1) count)
    · rw [hsearch]
      refine ⟨rfl, by omega, fun p hp => ?_⟩
      have hlast := p.date.number_le_lastDay
      have hahead := hp.2
      omega
    · rw [hsearch]
      refine ⟨⟨hcomes, Nat.le_of_eq hday.symm⟩, by omega, fun p hp => ?_⟩
      obtain hsame | hlater := Nat.eq_or_lt_of_le hp.2
      · rw [hcomes.1.unique hp.1.1 (hday.trans hsame)]
      · exact Nat.le_of_lt (Moment.micros_lt_of_number_lt (by omega))
    · rw [hsearch]
      exact (ih (first + 1)).later hday hpassed

theorem nextOpening_searches (hc : c.OpensOnMinutes) (now : Moment) :
    c.Searches now 0 7 (c.nextOpening now) := by
  have hdays : List.range lookahead = List.range' 0 7 := rfl
  rw [nextOpening, hdays]
  exact openingAmong_searches hc now 0 7

theorem comesFrom_zero : c.ComesFrom now 0 o ↔ c.Comes now o :=
  ⟨And.left, fun h => ⟨h, Moment.number_le_of_micros_lt h.2⟩⟩

end Calendar

end Parley
