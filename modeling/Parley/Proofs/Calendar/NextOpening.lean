import Parley.Proofs.Calendar.Openings

/-!
# The next opening

The search finds the earliest opening of today and the next six days, and fails only where the
calendar ends within them and nothing opens before its end. The one opening within a week that it can
miss is on the same day of the next week, at an hour that is past today (`nextOpening_isNext`).

Where the hours of each day end after they begin and no break holds their beginning, it is open at
the opening that is found (`isOpenAt_nextOpening`).
-/

namespace Parley

open Calendar ClockTime TimeOfDay

namespace Calendar

variable {c : Calendar} {now o p : Moment} {m : Nat}

/-! ## The week ahead -/

/-- A moment is on a day that is searched. -/
def IsSearched (now o : Moment) : Prop := o.date.number < now.date.number + lookahead

/-- A moment is at most a week ahead. -/
def InWeek (now o : Moment) : Prop := o.micros ≤ now.micros + 7 * perDay

/-- The calendar ends before the days that are searched do, and nothing opens until then. -/
def EndsFirst (c : Calendar) (now : Moment) : Prop :=
  lastDay + 1 < now.date.number + lookahead ∧ ∀ o, ¬ c.Comes now o

theorem IsSearched.inWeek (h : IsSearched now o) : InWeek now o := by
  have htime := o.time.micros_lt
  unfold IsSearched lookahead at h
  unfold InWeek Moment.micros perDay
  unfold perDay at htime
  omega

theorem InWeek.number_le (h : InWeek now o) : o.date.number ≤ now.date.number + 7 := by
  have htime := now.time.micros_lt
  unfold InWeek Moment.micros perDay at h
  unfold perDay at htime
  omega

/-- The search finds the earliest opening of the days searched, and fails where the calendar ends
first. -/
theorem nextOpening_cases (hc : c.OpensOnMinutes) (now : Moment) :
    (∃ r, c.nextOpening now = .ok r ∧ c.IsNext now (IsSearched now) r ∧ ¬ c.EndsFirst now) ∨
      c.nextOpening now = .error .momentOutOfRange ∧ c.EndsFirst now := by
  have hsearch := nextOpening_searches hc now
  cases hnext : c.nextOpening now with
  | ok r =>
    rw [hnext] at hsearch
    refine .inl ⟨r, rfl, ?_⟩
    cases r with
    | none =>
      obtain ⟨hend, hnone⟩ := hsearch
      refine ⟨fun p hp hnear => ?_, fun hends => ?_⟩
      · have hlater := hnone p (comesFrom_zero.2 hp)
        unfold IsSearched lookahead at hnear
        omega
      · have hfar := hends.1
        unfold lookahead at hfar
        omega
    | some o =>
      obtain ⟨hfrom, hin, hleast⟩ := hsearch
      have hcomes := comesFrom_zero.1 hfrom
      exact ⟨⟨hcomes, hin, fun p hp _ => hleast p (comesFrom_zero.2 hp)⟩, fun hends =>
        hends.2 o hcomes⟩
  | error e =>
    rw [hnext] at hsearch
    obtain ⟨rfl, hend, hnone⟩ := hsearch
    exact .inr ⟨rfl, hend, fun o ho => hnone o (comesFrom_zero.2 ho)⟩

theorem nextOpening_eq_ok_iff (hc : c.OpensOnMinutes) {r : Option Moment} :
    c.nextOpening now = .ok r ↔ c.IsNext now (IsSearched now) r ∧ ¬ c.EndsFirst now := by
  obtain ⟨r', hnext, hearliest, hends⟩ | ⟨hnext, hends⟩ := nextOpening_cases hc now
  · rw [hnext]
    constructor
    · intro h
      cases h
      exact ⟨hearliest, hends⟩
    · rintro ⟨h, -⟩
      rw [hearliest.unique h]
  · rw [hnext]
    exact iff_of_false (fun h => nomatch h) fun h => h.2 hends

theorem nextOpening_eq_error_iff (hc : c.OpensOnMinutes) {e : Failure} :
    c.nextOpening now = .error e ↔ e = .momentOutOfRange ∧ c.EndsFirst now := by
  obtain ⟨r, hnext, -, hends⟩ | ⟨hnext, hends⟩ := nextOpening_cases hc now
  · rw [hnext]
    exact iff_of_false (fun h => nomatch h) fun h => hends h.2
  · rw [hnext]
    constructor
    · intro h
      cases h
      exact ⟨rfl, hends⟩
    · rintro ⟨rfl, -⟩
      rfl

/-- The earliest opening of the days searched is the earliest of the week, unless the day after them
holds that one. -/
theorem IsNext.inWeek_iff {r : Option Moment} (h : c.IsNext now (IsSearched now) r) :
    c.IsNext now (InWeek now) r ↔
      ∀ o, c.IsNext now (InWeek now) (some o) → o.date.number ≠ now.date.number + 7 := by
  constructor
  · intro hweek o ho
    cases hweek.unique ho
    have hnear := h.2.1
    unfold IsSearched lookahead at hnear
    omega
  · intro hmissed
    have hlast : ∀ p, c.Comes now p → InWeek now p → ¬ IsSearched now p →
        p.date.number = now.date.number + 7 := by
      intro p hp hweek hfar
      have hle := hweek.number_le
      unfold IsSearched lookahead at hfar
      omega
    cases r with
    | some o =>
      obtain ⟨hcomes, hnear, hleast⟩ := h
      refine ⟨hcomes, hnear.inWeek, fun p hp hweek => ?_⟩
      by_cases hsearched : IsSearched now p
      · exact hleast p hp hsearched
      · have hfar := hlast p hp hweek hsearched
        refine Nat.le_of_lt (Moment.micros_lt_of_number_lt ?_)
        unfold IsSearched lookahead at hnear
        omega
    | none =>
      intro p hp hweek
      have hfar := hlast p hp hweek (h p hp)
      refine hmissed p ⟨hp, hweek, fun q hq hweek' => ?_⟩ hfar
      -- Nothing opens before that day, and the day has one opening.
      have hsame := hlast q hq hweek' (h q hq)
      rw [hp.1.unique hq.1 (hfar.trans hsame.symm)]

/-- The search gives the earliest opening of today and the six days after it, where there is one, and
fails where the calendar ends within these days and nothing opens before its end. So what it gives
is the earliest opening of the week, or nothing where there is none, unless it fails or that opening
is on the same day of the next week. -/
theorem nextOpening_isNext (hc : c.OpensOnMinutes) (now : Moment) :
    (∀ r, c.nextOpening now = .ok r ↔ c.IsNext now (IsSearched now) r ∧ ¬ c.EndsFirst now) ∧
    (∀ e, c.nextOpening now = .error e ↔ e = .momentOutOfRange ∧ c.EndsFirst now) ∧
    ((∃ r, c.nextOpening now = .ok r ∧ c.IsNext now (InWeek now) r) ↔ ¬ c.EndsFirst now ∧
      ∀ o, c.IsNext now (InWeek now) (some o) → o.date.number ≠ now.date.number + 7) := by
  refine ⟨fun r => nextOpening_eq_ok_iff hc, fun e => nextOpening_eq_error_iff hc, ?_⟩
  constructor
  · rintro ⟨r, hnext, hweek⟩
    obtain ⟨hsearched, hends⟩ := (nextOpening_eq_ok_iff hc).1 hnext
    exact ⟨hends, hsearched.inWeek_iff.1 hweek⟩
  · rintro ⟨hends, hmissed⟩
    obtain ⟨r, hnext, hsearched, -⟩ | ⟨-, hends'⟩ := nextOpening_cases hc now
    · exact ⟨r, hnext, hsearched.inWeek_iff.2 hmissed⟩
    · exact absurd hends' hends

/-- A day at a full hour. -/
def fullHour (date : Date) (hour : Fin 24) : Moment where
  date
  time := { hour, minute := 0, fits := by omega }
  near := isNear_none

/-- A Monday. -/
def monday : Date := { year := 2025, month := 10, day := 20 }

/-- The Monday after it. -/
def nextMonday : Date := { year := 2025, month := 10, day := 27 }

/-- Mondays from eight to twelve, and nothing else. -/
def mondays : Calendar where
  week := [{ weekday := 1, opens := some "08:00", closes := some "12:00" }]

theorem isMinute_eight : IsMinute (some "08:00") 480 := ⟨by decide, by decide⟩

theorem mondays_opensOnMinutes : mondays.OpensOnMinutes where
  week hours hmem := by
    obtain rfl := List.mem_singleton.1 hmem
    exact .inr ⟨480, isMinute_eight⟩
  holidays h hmem := absurd hmem List.not_mem_nil

theorem nextOpening_isNext_mondays : mondays.OpensOnMinutes ∧
    mondays.IsNext (fullHour monday 6) (IsSearched (fullHour monday 6))
      (some (fullHour monday 8)) := by
  have hnext := (nextOpening_isNext mondays_opensOnMinutes (fullHour monday 6)).1
    (some (fullHour monday 8))
  exact ⟨mondays_opensOnMinutes, (hnext.1 (by decide +kernel)).1⟩

/-- On a Monday at one o'clock the opening of the next Monday is not found. -/
theorem nextOpening_misses_nextMonday : mondays.OpensOnMinutes ∧
    mondays.Comes (fullHour monday 13) (fullHour nextMonday 8) ∧
    InWeek (fullHour monday 13) (fullHour nextMonday 8) ∧
    mondays.nextOpening (fullHour monday 13) = .ok none := by
  have hbegins : mondays.Begins nextMonday 480 :=
    .usual (fun _ hfirst => nomatch hfirst) rfl rfl isMinute_eight
  refine ⟨mondays_opensOnMinutes, ⟨⟨480, hbegins, by decide, rfl⟩, by decide⟩, ?_,
    by decide⟩
  unfold InWeek
  decide

/-! ## Open at the opening -/

/-- All times of a calendar are kept in the one form of times. -/
structure IsNormalized (c : Calendar) : Prop extends OpensOnMinutes c where
  closes : (∀ hours ∈ c.week, IsKept hours.closes) ∧ ∀ h ∈ c.holidays, IsKept h.closes
  breaks : ∀ hours ∈ c.week, IsKept hours.breakStart ∧ IsKept hours.breakEnd

/-- A minute lies between two times that are given, both included. -/
def IsBetween (first : Option String) (m : Nat) (last : Option String) : Prop :=
  ∃ a b, IsMinute first a ∧ IsMinute last b ∧ a ≤ m ∧ m ≤ b

/-- Hours end, and not before they begin, and no break holds their beginning. -/
structure IsOrderly (c : Calendar) : Prop where
  week : ∀ hours ∈ c.week, hours.isActive = true → ∀ m, IsMinute hours.opens m →
    (∃ e, IsMinute hours.closes e ∧ m ≤ e) ∧ ¬ IsBetween hours.breakStart m hours.breakEnd
  special : ∀ h ∈ c.holidays, h.kind = .specialHours → ∀ m, IsMinute h.opens m →
    ∃ e, IsMinute h.closes e ∧ m ≤ e

variable {first last : Option String} {e : Nat}

theorem within_of_opens (hm : IsMinute first m) (he : IsMinute last e) (hle : m ≤ e) :
    within first (minuteText m) last = .ok true := by
  rw [hm.2, he.2, within, if_pos (String.le_refl _)]
  exact congrArg Except.ok (decide_eq_true ((minuteText_le_iff hm.1 he.1).2 hle))

theorem withinGiven_iff (hm : m < minutesPerDay) (hfirst : IsKept first) (hlast : IsKept last) :
    withinGiven first (minuteText m) last = true ↔ IsBetween first m last := by
  constructor
  · intro h
    unfold withinGiven at h
    split at h
    · rename_i a b
      obtain ⟨i, hi, rfl⟩ := hfirst.isMinute rfl
      obtain ⟨j, hj, rfl⟩ := hlast.isMinute rfl
      obtain ⟨h, hle'⟩ := Bool.and_eq_true_iff.1 h
      obtain ⟨-, hle⟩ := Bool.and_eq_true_iff.1 h
      exact ⟨i, j, hi, hj, (minuteText_le_iff hi.1 hm).1 (of_decide_eq_true hle),
        (minuteText_le_iff hm hj.1).1 (of_decide_eq_true hle')⟩
    · cases h
  · rintro ⟨i, j, hi, hj, hle, hle'⟩
    rw [hi.2, hj.2]
    simp [withinGiven, minuteText_ne_empty, (minuteText_le_iff hi.1 hm).2 hle,
      (minuteText_le_iff hm hj.1).2 hle']

/-- At the minute at which its hours begin a day is open. -/
theorem isOpenAt_of_begins (hc : c.IsNormalized) (ho : c.IsOrderly) (hm : c.Begins o.date m)
    (htime : o.time = .ofMinute m) : c.isOpenAt o = .ok true := by
  unfold isOpenAt
  cases hm with
  | special hfirst hkind hopens =>
    have hmem := List.mem_of_find?_eq_some hfirst
    obtain ⟨e, he, hle⟩ := ho.special _ hmem hkind m hopens
    rw [htime, hourMinute_ofMinute hopens.1, plan_of_special hfirst hkind]
    exact congrArg Except.ok ((withinGiven_iff hopens.1 (hc.holidays _ hmem)
      (hc.closes.2 _ hmem)).2 ⟨m, e, hopens, he, Nat.le_refl m, hle⟩)
  | @usual hours husual hfirst hactive hopens =>
    have hmem := List.mem_of_find?_eq_some hfirst
    obtain ⟨⟨e, he, hle⟩, hbreak⟩ := ho.week _ hmem hactive m hopens
    have hpause : withinGiven hours.breakStart (minuteText m) hours.breakEnd = false :=
      Bool.not_eq_true _ ▸ mt (withinGiven_iff hopens.1 (hc.breaks _ hmem).1
        (hc.breaks _ hmem).2).1 hbreak
    rw [htime, hourMinute_ofMinute hopens.1, plan_of_isUsual husual,
      usualPlan_of_active hfirst hactive]
    dsimp only
    rw [within_of_opens hopens he hle, hpause]
    rfl

/-- What the search finds is to come, on one of the days searched, and it is open then. -/
theorem isOpenAt_nextOpening (hc : c.IsNormalized) (ho : c.IsOrderly)
    (h : c.nextOpening now = .ok (some o)) : now.micros < o.micros ∧
      now.date.number ≤ o.date.number ∧ o.date.number ≤ now.date.number + 6 ∧
      c.isOpenAt o = .ok true := by
  obtain ⟨⟨⟨⟨m, hm, htime, -⟩, hlater⟩, hnear, -⟩, -⟩ :=
    (nextOpening_eq_ok_iff hc.toOpensOnMinutes).1 h
  exact ⟨hlater, Moment.number_le_of_micros_lt hlater, Nat.le_of_lt_succ hnear,
    isOpenAt_of_begins hc ho hm htime⟩

/-- Mondays from eight to six with a break at noon; one Monday is shorter. -/
def shortMonday : Calendar where
  week :=
    [{ weekday := 1, opens := some "08:00", closes := some "18:00"
       breakStart := some "12:00", breakEnd := some "13:00" }]
  holidays :=
    [{ date := .on monday, kind := .specialHours, opens := some "10:00", closes := some "14:00" }]

theorem isMinute_noon : IsMinute (some "12:00") 720 := ⟨by decide, by decide⟩

theorem shortMonday_isNormalized : shortMonday.IsNormalized where
  week hours hmem := by
    obtain rfl := List.mem_singleton.1 hmem
    exact .inr ⟨480, isMinute_eight⟩
  holidays h hmem := by
    obtain rfl := List.mem_singleton.1 hmem
    exact .inr ⟨600, by decide, by decide⟩
  closes := by
    refine ⟨fun hours hmem => ?_, fun h hmem => ?_⟩ <;> obtain rfl := List.mem_singleton.1 hmem
    · exact .inr ⟨1080, by decide, by decide⟩
    · exact .inr ⟨840, by decide, by decide⟩
  breaks hours hmem := by
    obtain rfl := List.mem_singleton.1 hmem
    exact ⟨.inr ⟨720, isMinute_noon⟩, .inr ⟨780, by decide, by decide⟩⟩

theorem shortMonday_isOrderly : shortMonday.IsOrderly where
  week hours hmem _ m hm := by
    obtain rfl := List.mem_singleton.1 hmem
    obtain rfl := isMinute_eight.unique hm
    refine ⟨⟨1080, ⟨by decide, by decide⟩, by decide⟩, ?_⟩
    rintro ⟨a, -, ha, -, hle, -⟩
    obtain rfl := isMinute_noon.unique ha
    exact absurd hle (by decide)
  special h hmem _ m hm := by
    obtain rfl := List.mem_singleton.1 hmem
    have hten : IsMinute (some "10:00") 600 := ⟨by decide, by decide⟩
    obtain rfl := hten.unique hm
    exact ⟨840, ⟨by decide, by decide⟩, by decide⟩

theorem isOpenAt_shortMonday : shortMonday.IsNormalized ∧ shortMonday.IsOrderly ∧
    shortMonday.nextOpening (fullHour monday 6) = .ok (some (fullHour monday 10)) ∧
    shortMonday.isOpenAt (fullHour monday 10) = .ok true := by
  have hnext : shortMonday.nextOpening (fullHour monday 6) = .ok (some (fullHour monday 10)) := by
    decide +kernel
  exact ⟨shortMonday_isNormalized, shortMonday_isOrderly, hnext,
    (isOpenAt_nextOpening shortMonday_isNormalized shortMonday_isOrderly hnext).2.2.2⟩

end Calendar

end Parley
