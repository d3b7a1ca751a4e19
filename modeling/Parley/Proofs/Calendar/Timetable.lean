import Mathlib.Data.List.Forall2
import Parley.Proofs.Calendar.NextOpening

/-!
# Hours by the minute

A time may be written with any number of noughts in front of its numbers, and with seconds behind
them (`ClockTime.Written`). It is kept as the text of its minute, so a row of hours or of a holiday
can be read as minutes of the day (`MinuteHours.IsIn`, `MinuteHoliday.IsIn`), and rows that are read
so make up a `Timetable`. Whether it is open is then a matter of comparing minutes
(`isOpenAt_by_minutes`): texts of two digits each stand in the order of the minutes, at every
boundary.

There is one limit to the noughts. A number of more than 4300 digits is not read at all, so a row
with such a time does not load (`unread_longMonday`).
-/

namespace Parley

open Calendar ClockTime Number Text TimeOfDay

/-! ## Times as they are written -/

namespace ClockTime

/-- A time as it may be written: an hour and a minute in digits, with any number of noughts in front,
and perhaps seconds behind them. -/
structure Written where
  hour : List Char
  minute : List Char
  /-- What stands behind a second colon, where there is one. -/
  seconds : Option (List Char) := none
  inDigits : (∀ c ∈ hour, isAsciiDigit c = true) ∧ ∀ c ∈ minute, isAsciiDigit c = true
  given : hour ≠ [] ∧ minute ≠ []
  inDay : digitsValue hour < 24 ∧ digitsValue minute < 60

namespace Written

/-- The text of a time. -/
def text (t : Written) : String :=
  String.ofList (t.hour ++ ':' :: (t.minute ++ t.seconds.elim [] (':' :: ·)))

/-- The minute of the day that a time tells. -/
def minuteOfDay (t : Written) : Nat := digitsValue t.hour * 60 + digitsValue t.minute

/-- How many digits the longer one of its numbers has. -/
def width (t : Written) : Nat := max t.hour.length t.minute.length

variable (t : Written)

theorem minuteOfDay_lt : t.minuteOfDay < minutesPerDay := by
  obtain ⟨hhour, hminute⟩ := t.inDay
  unfold minuteOfDay minutesPerDay
  omega

theorem splitAtChar_text :
    ∃ rest, splitAtChar ':' t.text.toList = t.hour :: t.minute :: rest := by
  have hcolon : ∀ cs : List Char, (∀ c ∈ cs, isAsciiDigit c = true) → ∀ c ∈ cs, c ≠ ':' := by
    rintro cs hcs c hc rfl
    exact absurd (hcs _ hc) (by decide)
  obtain ⟨rest, hbehind⟩ : ∃ rest, splitAtChar ':' (t.seconds.elim [] (':' :: ·)) = [] :: rest := by
    cases t.seconds with
    | none => exact ⟨[], rfl⟩
    | some cs => exact ⟨splitAtChar ':' cs, by rw [Option.elim, splitAtChar, if_pos rfl]⟩
  have hminute := splitAtChar_append (hcolon _ t.inDigits.2) hbehind
  have hhour : splitAtChar ':' (':' :: (t.minute ++ t.seconds.elim [] (':' :: ·))) =
      [] :: t.minute :: rest := by
    rw [splitAtChar, if_pos rfl, hminute, List.append_nil]
  refine ⟨rest, ?_⟩
  rw [text, String.toList_ofList, splitAtChar_append (hcolon _ t.inDigits.1) hhour,
    List.append_nil]

/-- A time whose numbers are not too long is kept as the text of its minute. -/
theorem text_kept (h : t.width ≤ maxWholeDigits) :
    ClockTime.text (.str t.text) = .ok (some (minuteText t.minuteOfDay)) := by
  obtain ⟨hhour, hminute⟩ := max_le_iff.1 h
  obtain ⟨rest, hsplit⟩ := t.splitAtChar_text
  refine text_of_parts t.inDay.2 ?_
  show parts t.text = _
  unfold parts
  rw [hsplit]
  dsimp only
  rw [wholeOfText_digits t.inDigits.1 t.given.1 hhour,
    wholeOfText_digits t.inDigits.2 t.given.2 hminute]
  rfl

/-- A time whose hour is too long is not read. -/
theorem text_unread (h : maxWholeDigits < t.hour.length) :
    ClockTime.text (.str t.text) = .error (.tooManyDigits t.hour.length) := by
  obtain ⟨rest, hsplit⟩ := t.splitAtChar_text
  have hparts : parts t.text = .error (.tooManyDigits t.hour.length) := by
    unfold parts
    rw [hsplit]
    dsimp only
    rw [wholeOfText_of_long t.inDigits.1 h]
    rfl
  have hne : t.text ≠ "" := by
    intro hempty
    rw [hempty] at hsplit
    have hone : [[]] = t.hour :: t.minute :: rest := hsplit
    exact nomatch (List.cons.inj hone).2
  unfold ClockTime.text
  split
  · rename_i hnull
    cases hnull
  · rename_i hempty
    exact absurd (Json.str.inj hempty) hne
  · show (parts t.text).map _ = _
    rw [hparts]
    rfl

end Written

end ClockTime

namespace TimeOfDay

/-- The minute of the day that a clock shows. -/
def minuteOfDay (t : TimeOfDay) : Nat := t.hour * 60 + t.minute

theorem minuteOfDay_lt (t : TimeOfDay) : t.minuteOfDay < minutesPerDay := by
  obtain ⟨hhour, hminute, -⟩ := t.fits
  unfold minuteOfDay minutesPerDay
  omega

end TimeOfDay

namespace Calendar

/-! ## Rows read as minutes -/

/-- What a cell tells of a time: nothing, or a minute of the day in numbers of at most `width`
digits. -/
inductive Tells (width : Nat) : Json → Option Nat → Prop
  | nothing : Tells width .null none
  | time (t : Written) (h : t.width ≤ width) : Tells width (.str t.text) (some t.minuteOfDay)

/-- The hours of a day of the week by the minute; 0 is Sunday. -/
structure MinuteHours where
  weekday : Int
  first : Nat
  last : Nat
  isActive : Bool := true
  breakFirst : Option Nat := none
  breakLast : Option Nat := none

/-- A holiday by the minute; it has no date where no text is written in place of one. -/
structure MinuteHoliday where
  date : Option Date
  kind : HolidayKind
  first : Option Nat := none
  last : Option Nat := none

/-- Weekly hours and holidays by the minute. -/
structure Timetable where
  week : List MinuteHours
  holidays : List MinuteHoliday := []

/-- The hours stand in a row, in numbers of at most `width` digits. -/
structure MinuteHours.IsIn (width : Nat) (hours : MinuteHours) (row : Row) : Prop where
  weekday : ∃ v, row.require "day_of_week" = .ok v ∧ wholeOfCell v = .ok hours.weekday
  first : ∃ v, row.require "start_time" = .ok v ∧ Tells width v (some hours.first)
  last : ∃ v, row.require "end_time" = .ok v ∧ Tells width v (some hours.last)
  isActive : ((Dictionary.find? row "is_active").getD (.bool true)).truthy = hours.isActive
  breakFirst : Tells width (row.cell "break_start") hours.breakFirst
  breakLast : Tells width (row.cell "break_end") hours.breakLast

/-- What a cell tells of a date: the one that its first ten characters are read as, and nothing
where it holds no text. -/
inductive TellsDate : Json → Option Date → Prop
  | text {s : String} {date : Date} (h : Date.read (takeChars 10 s) = .ok date) :
    TellsDate (.str s) (some date)
  | other {v : Json} (h : ∀ s, v ≠ .str s) : TellsDate v none

/-- The holiday stands in a row, in numbers of at most `width` digits. -/
structure MinuteHoliday.IsIn (width : Nat) (h : MinuteHoliday) (row : Row) : Prop where
  date : ∃ v, row.require "date" = .ok v ∧ TellsDate v h.date
  kind : HolidayKind.ofName (row.cell "type") = h.kind
  first : Tells width (row.cell "start_time") h.first
  last : Tells width (row.cell "end_time") h.last

/-! ## Open by the minute -/

/-- A minute lies between two others that are both given, both included. -/
def Between (first : Option Nat) (m : Nat) (last : Option Nat) : Prop :=
  ∃ a ∈ first, ∃ b ∈ last, a ≤ m ∧ m ≤ b

/-- It is open by the hours that are first for the day of the week: these are in force, and the
minute lies in them and not in their break. -/
def Timetable.IsUsuallyOpen (t : Timetable) (date : Date) (m : Nat) : Prop :=
  ∃ hours, t.week.find? (·.weekday == Int.ofNat date.weekday) = some hours ∧
    hours.isActive = true ∧ hours.first ≤ m ∧ m ≤ hours.last ∧
    ¬ Between hours.breakFirst m hours.breakLast

/-- It is open on a day at a minute: the first holiday on the day closes it, gives it hours of its
own, or leaves it as it is. -/
def Timetable.IsOpen (t : Timetable) (date : Date) (m : Nat) : Prop :=
  match t.holidays.find? (·.date == some date) with
  | none => t.IsUsuallyOpen date m
  | some h => match h.kind with
    | .holiday | .closed => False
    | .specialHours => Between h.first m h.last
    | .other _ => t.IsUsuallyOpen date m

/-! ## Rows that load -/

variable {width : Nat} {v : Json} {time : Option Nat} {hours : MinuteHours} {row : Row}

theorem Tells.text (h : Tells maxWholeDigits v time) :
    ClockTime.text v = .ok (time.map minuteText) := by
  cases h with
  | nothing => rfl
  | time t h => exact t.text_kept h

theorem Tells.lt {m : Nat} (h : Tells width v (some m)) : m < minutesPerDay := by
  cases h with
  | time t h => exact t.minuteOfDay_lt

/-- The hours as they are kept. -/
def MinuteHours.kept (hours : MinuteHours) : DayHours where
  weekday := hours.weekday
  opens := some (minuteText hours.first)
  closes := some (minuteText hours.last)
  isActive := hours.isActive
  breakStart := hours.breakFirst.map minuteText
  breakEnd := hours.breakLast.map minuteText

/-- The holiday as it is kept, under a name. -/
def MinuteHoliday.kept (name v : Json) (h : MinuteHoliday) : Holiday where
  date := h.date.elim (.unread v) .on
  kind := h.kind
  name
  opens := h.first.map minuteText
  closes := h.last.map minuteText

theorem MinuteHours.IsIn.ofRow (h : hours.IsIn maxWholeDigits row) :
    DayHours.ofRow row = .ok hours.kept := by
  obtain ⟨weekday, hweekday, hwhole⟩ := h.weekday
  obtain ⟨first, hfirst, htells⟩ := h.first
  obtain ⟨last, hlast, htells'⟩ := h.last
  unfold DayHours.ofRow
  simp only [hweekday, hwhole, hfirst, htells.text, hlast, htells'.text, h.isActive,
    h.breakFirst.text, h.breakLast.text, bind, Except.bind]
  rfl

theorem MinuteHoliday.IsIn.ofRow {h : MinuteHoliday} (hin : h.IsIn maxWholeDigits row) :
    ∃ name v, Holiday.ofRow row = .ok (h.kept name v) := by
  obtain ⟨v, hdate, htells⟩ := hin.date
  refine ⟨row.cell "name", v, ?_⟩
  unfold Holiday.ofRow MinuteHoliday.kept
  simp only [hdate, hin.kind, hin.first.text, hin.last.text, bind, Except.bind]
  generalize h.date = date at htells
  cases htells with
  | text hread => simp only [hread, Except.map, Option.elim]
  | other hother =>
    cases v with
    | str s => exact absurd rfl (hother s)
    | _ => rfl

/-! ## Calendars that keep a timetable -/

/-- Hours have minutes of the day only. -/
def MinuteHours.OnDay (hours : MinuteHours) : Prop :=
  (hours.first < minutesPerDay ∧ hours.last < minutesPerDay) ∧
    (∀ m ∈ hours.breakFirst, m < minutesPerDay) ∧ ∀ m ∈ hours.breakLast, m < minutesPerDay

/-- A holiday has minutes of the day only. -/
def MinuteHoliday.OnDay (h : MinuteHoliday) : Prop :=
  (∀ m ∈ h.first, m < minutesPerDay) ∧ ∀ m ∈ h.last, m < minutesPerDay

theorem Tells.lt_of_mem (h : Tells width v time) : ∀ m ∈ time, m < minutesPerDay := by
  rintro m rfl
  exact h.lt

theorem MinuteHours.IsIn.onDay (h : hours.IsIn width row) : hours.OnDay := by
  obtain ⟨_, -, hfirst⟩ := h.first
  obtain ⟨_, -, hlast⟩ := h.last
  exact ⟨⟨hfirst.lt, hlast.lt⟩, h.breakFirst.lt_of_mem, h.breakLast.lt_of_mem⟩

theorem MinuteHoliday.IsIn.onDay {h : MinuteHoliday} (hin : h.IsIn width row) : h.OnDay :=
  ⟨hin.first.lt_of_mem, hin.last.lt_of_mem⟩

/-- What is kept of hours. -/
def MinuteHours.IsKeptAs (hours : MinuteHours) (kept : DayHours) : Prop :=
  kept = hours.kept ∧ hours.OnDay

/-- What is kept of a holiday, under any name. -/
def MinuteHoliday.IsKeptAs (h : MinuteHoliday) (kept : Holiday) : Prop :=
  (∃ name v, kept = h.kept name v) ∧ h.OnDay

/-- A calendar keeps what a timetable says. -/
structure Timetable.IsKeptBy (t : Timetable) (c : Calendar) : Prop where
  week : List.Forall₂ MinuteHours.IsKeptAs t.week c.week
  holidays : List.Forall₂ MinuteHoliday.IsKeptAs t.holidays c.holidays

/-- Where each row is read as what stands for it, all are. -/
theorem exists_mapM {α β γ ε : Type} {f : β → Except ε γ} {R : α → β → Prop} {S : α → γ → Prop}
    (hread : ∀ a b, R a b → ∃ c, f b = .ok c ∧ S a c) {as : List α} {bs : List β}
    (h : List.Forall₂ R as bs) : ∃ cs, bs.mapM f = .ok cs ∧ List.Forall₂ S as cs := by
  induction h with
  | nil => exact ⟨[], rfl, .nil⟩
  | cons hab _ ih =>
    obtain ⟨c, hc, hkept⟩ := hread _ _ hab
    obtain ⟨cs, hcs, hall⟩ := ih
    refine ⟨c :: cs, ?_, .cons hkept hall⟩
    rw [List.mapM_cons, hc, hcs]
    rfl

/-- The rows of a timetable load as a calendar that keeps it. -/
theorem Timetable.exists_isKeptBy {t : Timetable} {weekRows holidayRows : List Row}
    (hweek : List.Forall₂ (MinuteHours.IsIn maxWholeDigits) t.week weekRows)
    (hholidays : List.Forall₂ (MinuteHoliday.IsIn maxWholeDigits) t.holidays holidayRows) :
    ∃ c : Calendar, weekRows.mapM DayHours.ofRow = .ok c.week ∧
      holidayRows.mapM Holiday.ofRow = .ok c.holidays ∧ t.IsKeptBy c := by
  obtain ⟨week, hreadWeek, hkeptWeek⟩ :=
    exists_mapM (S := MinuteHours.IsKeptAs) (fun _ _ h => ⟨_, h.ofRow, rfl, h.onDay⟩) hweek
  obtain ⟨holidays, hreadHolidays, hkeptHolidays⟩ :=
    exists_mapM (S := MinuteHoliday.IsKeptAs) (fun _ _ h => by
      obtain ⟨name, v, hread⟩ := h.ofRow
      exact ⟨_, hread, ⟨name, v, rfl⟩, h.onDay⟩) hholidays
  exact ⟨{ week, holidays }, hreadWeek, hreadHolidays, hkeptWeek, hkeptHolidays⟩

/-! ## Texts compared as minutes -/

variable {m : Nat}

theorem within_minuteText {a b : Nat} (ha : a < minutesPerDay) (hm : m < minutesPerDay)
    (hb : b < minutesPerDay) :
    within (some (minuteText a)) (minuteText m) (some (minuteText b)) =
      .ok (decide (a ≤ m ∧ m ≤ b)) := by
  unfold within
  simp only [minuteText_le_iff ha hm, minuteText_le_iff hm hb]
  split <;> simp [*]

theorem withinGiven_minuteText {first last : Option Nat} (hfirst : ∀ a ∈ first, a < minutesPerDay)
    (hm : m < minutesPerDay) (hlast : ∀ b ∈ last, b < minutesPerDay) :
    withinGiven (first.map minuteText) (minuteText m) (last.map minuteText) = true ↔
      Between first m last := by
  unfold Between
  cases first with
  | none => simp [withinGiven]
  | some a =>
    cases last with
    | none => simp [withinGiven]
    | some b =>
      have ha := hfirst a rfl
      have hb := hlast b rfl
      simp [withinGiven, minuteText_ne_empty, minuteText_le_iff ha hm, minuteText_le_iff hm hb]

/-! ## Open by the minute -/

/-- What is found first on one side stands for what is found first on the other. -/
theorem find?_cases {α β : Type} {R : α → β → Prop} {p : α → Bool} {q : β → Bool}
    (hpq : ∀ a b, R a b → p a = q b) {as : List α} {bs : List β} (h : List.Forall₂ R as bs) :
    (as.find? p = none ∧ bs.find? q = none) ∨
      ∃ a b, as.find? p = some a ∧ bs.find? q = some b ∧ R a b := by
  induction h with
  | nil => exact .inl ⟨rfl, rfl⟩
  | @cons a b as bs hab _ ih =>
    rw [List.find?_cons, List.find?_cons, hpq a b hab]
    cases q b with
    | true => exact .inr ⟨a, b, rfl, rfl, hab⟩
    | false => exact ih

theorem isOpenAt_of_closed {c : Calendar} {now : Moment} (hplan : c.plan now.date = .closed) :
    c.isOpenAt now = .ok false := by
  unfold isOpenAt
  rw [hplan]

/-- On a day with its usual hours it is open in them, but not in their break. -/
theorem isOpenAt_of_usual {c : Calendar} {now : Moment} (hday : hours.OnDay)
    (hplan : c.plan now.date = .usual hours.kept) : ∃ isOpen, c.isOpenAt now = .ok isOpen ∧
      (isOpen = true ↔ hours.first ≤ now.time.minuteOfDay ∧ now.time.minuteOfDay ≤ hours.last ∧
        ¬ Between hours.breakFirst now.time.minuteOfDay hours.breakLast) := by
  obtain ⟨⟨hfirst, hlast⟩, hbreakFirst, hbreakLast⟩ := hday
  have hm := now.time.minuteOfDay_lt
  have hin := within_minuteText hfirst hm hlast
  have hbreak := withinGiven_minuteText hbreakFirst hm hbreakLast
  unfold isOpenAt
  rw [hplan, hourMinute_eq]
  dsimp only [MinuteHours.kept]
  unfold minuteOfDay at *
  rw [hin]
  refine ⟨_, rfl, ?_⟩
  rw [Bool.and_eq_true, decide_eq_true_iff, Bool.not_eq_true', ← Bool.not_eq_true, hbreak, and_assoc]

namespace Timetable.IsKeptBy

variable {t : Timetable} {c : Calendar} {now : Moment}

theorem hours_cases (h : t.IsKeptBy c) (weekday : Int) :
    (t.week.find? (·.weekday == weekday) = none ∧ c.week.find? (·.weekday == weekday) = none) ∨
      ∃ hours kept, t.week.find? (·.weekday == weekday) = some hours ∧
        c.week.find? (·.weekday == weekday) = some kept ∧ hours.IsKeptAs kept :=
  find?_cases (by rintro hours _ ⟨rfl, -⟩; rfl) h.week

theorem holiday_cases (h : t.IsKeptBy c) (date : Date) :
    (t.holidays.find? (·.date == some date) = none ∧ c.holidays.find? (·.isOn date) = none) ∨
      ∃ holiday kept, t.holidays.find? (·.date == some date) = some holiday ∧
        c.holidays.find? (·.isOn date) = some kept ∧ holiday.IsKeptAs kept := by
  refine find?_cases ?_ h.holidays
  rintro ⟨day, kind, first, last⟩ _ ⟨⟨name, v, rfl⟩, -⟩
  cases day with
  | none => rfl
  | some day =>
    show (some day == some date) = (HolidayDate.on day == .on date)
    rw [Bool.eq_iff_iff, beq_iff_eq, beq_iff_eq, Option.some.injEq, HolidayDate.on.injEq]

theorem isOpenAt_of_isUsual (h : t.IsKeptBy c) (husual : c.IsUsual now.date) :
    ∃ isOpen, c.isOpenAt now = .ok isOpen ∧
      (isOpen = true ↔ t.IsUsuallyOpen now.date now.time.minuteOfDay) := by
  have hplan := plan_of_isUsual husual
  unfold IsUsuallyOpen
  obtain ⟨hnone, hnone'⟩ | ⟨hours, _, hfirst, hfirst', rfl, hday⟩ :=
    h.hours_cases (Int.ofNat now.date.weekday)
  · have hclosed : c.plan now.date = .closed := by rw [hplan, usualPlan, hnone']
    rw [hnone]
    exact ⟨false, isOpenAt_of_closed hclosed, by simp⟩
  rw [hfirst]
  by_cases hactive : hours.isActive = true
  · obtain ⟨isOpen, hisOpen, hiff⟩ :=
      isOpenAt_of_usual hday (hplan.trans (usualPlan_of_active hfirst' hactive))
    refine ⟨isOpen, hisOpen, hiff.trans ⟨fun hin => ⟨hours, rfl, hactive, hin⟩, ?_⟩⟩
    rintro ⟨_, heq, -, hin⟩
    cases heq
    exact hin
  · have hclosed : c.plan now.date = .closed := by
      rw [hplan, usualPlan, hfirst']
      exact if_neg hactive
    refine ⟨false, isOpenAt_of_closed hclosed, iff_of_false Bool.false_ne_true ?_⟩
    rintro ⟨_, heq, hactive', -⟩
    cases heq
    exact hactive hactive'

/-- A calendar that keeps a timetable is open when the timetable says so. -/
theorem isOpenAt_cases (h : t.IsKeptBy c) (now : Moment) :
    ∃ isOpen, c.isOpenAt now = .ok isOpen ∧
      (isOpen = true ↔ t.IsOpen now.date now.time.minuteOfDay) := by
  obtain ⟨hnone, hnone'⟩ | ⟨holiday, _, hfirst, hfirst', ⟨name, v, rfl⟩, hday⟩ :=
    h.holiday_cases now.date
  · unfold IsOpen
    rw [hnone]
    exact h.isOpenAt_of_isUsual fun _ hsome => nomatch hnone'.symm.trans hsome
  unfold IsOpen
  rw [hfirst]
  dsimp only
  cases hkind : holiday.kind with
  | holiday => exact ⟨false, isOpenAt_of_closed (plan_of_closing hfirst' (.inl hkind)), by simp⟩
  | closed => exact ⟨false, isOpenAt_of_closed (plan_of_closing hfirst' (.inr hkind)), by simp⟩
  | specialHours =>
    rw [isOpenAt, plan_of_special hfirst' hkind, hourMinute_eq]
    exact ⟨_, rfl, withinGiven_minuteText hday.1 now.time.minuteOfDay_lt hday.2⟩
  | other w =>
    refine h.isOpenAt_of_isUsual fun _ hsome => ?_
    cases hfirst'.symm.trans hsome
    simp [MinuteHoliday.kept, hkind]

end Timetable.IsKeptBy

/-- The rows of a timetable load, in numbers of up to 4300 digits with any noughts in front of them,
and at every moment the calendar that they make is open just where the timetable is. -/
theorem isOpenAt_by_minutes {t : Timetable} {weekRows holidayRows : List Row}
    (hweek : List.Forall₂ (MinuteHours.IsIn maxWholeDigits) t.week weekRows)
    (hholidays : List.Forall₂ (MinuteHoliday.IsIn maxWholeDigits) t.holidays holidayRows) :
    ∃ c : Calendar, weekRows.mapM DayHours.ofRow = .ok c.week ∧
      holidayRows.mapM Holiday.ofRow = .ok c.holidays ∧
      ∀ now : Moment, ∃ isOpen, c.isOpenAt now = .ok isOpen ∧
        (isOpen = true ↔ t.IsOpen now.date now.time.minuteOfDay) := by
  obtain ⟨c, hreadWeek, hreadHolidays, hkept⟩ := Timetable.exists_isKeptBy hweek hholidays
  exact ⟨c, hreadWeek, hreadHolidays, hkept.isOpenAt_cases⟩

/-- Five past eight, with few noughts and with many. -/
def fivePastEight : Written where
  hour := ['8']
  minute := ['5']
  inDigits := ⟨List.all_eq_true.1 (by decide), List.all_eq_true.1 (by decide)⟩
  given := by decide
  inDay := by decide

def fivePastEight' : Written where
  hour := ['0', '0', '8']
  minute := ['0', '5']
  seconds := some ['0', '0']
  inDigits := ⟨List.all_eq_true.1 (by decide), List.all_eq_true.1 (by decide)⟩
  given := by decide
  inDay := by decide

def noon : Written where
  hour := ['1', '2']
  minute := ['0', '0']
  inDigits := ⟨List.all_eq_true.1 (by decide), List.all_eq_true.1 (by decide)⟩
  given := by decide
  inDay := by decide

/-- Mondays from a time to noon. -/
def mondayRow (t : Written) : Row :=
  [("day_of_week", .int 1), ("start_time", .str t.text), ("end_time", .str noon.text)]

theorem mondayRow_isIn {t : Written} (h : t.width ≤ width) (htwo : 2 ≤ width) :
    MinuteHours.IsIn width { weekday := 1, first := t.minuteOfDay, last := 720 } (mondayRow t) where
  weekday := ⟨.int 1, rfl, rfl⟩
  first := ⟨_, rfl, .time t h⟩
  last := ⟨_, rfl, .time noon htwo⟩
  isActive := rfl
  breakFirst := .nothing
  breakLast := .nothing

/-- Mondays from five past eight to noon; one of them has no end. -/
def earlyMondays : Timetable where
  week := [{ weekday := 1, first := 485, last := 720 }]
  holidays := [{ date := some monday, kind := .specialHours, first := some 485 }]

def endlessMondayRow : Row :=
  [("date", .str "2025-10-20"), ("type", .str "SPECIAL_HOURS"), ("start_time", .str "008:05:00")]

theorem isOpenAt_earlyMondays :
    List.Forall₂ (MinuteHours.IsIn maxWholeDigits) earlyMondays.week [mondayRow fivePastEight] ∧
    List.Forall₂ (MinuteHoliday.IsIn maxWholeDigits) earlyMondays.holidays [endlessMondayRow] ∧
    ∃ c : Calendar, [mondayRow fivePastEight].mapM DayHours.ofRow = .ok c.week ∧
      [endlessMondayRow].mapM Holiday.ofRow = .ok c.holidays ∧
      c.isOpenAt (fullHour nextMonday 12) = .ok true ∧
      c.isOpenAt (fullHour monday 12) = .ok false := by
  have hholiday : MinuteHoliday.IsIn maxWholeDigits
      { date := some monday, kind := .specialHours, first := some 485 } endlessMondayRow := {
    date := ⟨_, rfl, .text (by decide)⟩
    kind := rfl
    first := .time fivePastEight' (by decide)
    last := .nothing }
  have hhours : MinuteHours.IsIn maxWholeDigits _ (mondayRow fivePastEight) :=
    mondayRow_isIn (by decide) (by decide)
  have hweek : List.Forall₂ _ earlyMondays.week [mondayRow fivePastEight] := .cons hhours .nil
  have hholidays : List.Forall₂ _ earlyMondays.holidays [endlessMondayRow] := .cons hholiday .nil
  obtain ⟨c, hreadWeek, hreadHolidays, hopen⟩ := isOpenAt_by_minutes hweek hholidays
  refine ⟨hweek, hholidays, c, hreadWeek, hreadHolidays, ?_, ?_⟩
  · obtain ⟨isOpen, hisOpen, hiff⟩ := hopen (fullHour nextMonday 12)
    rw [hisOpen, hiff.2 ⟨_, rfl, rfl, by decide, by decide, by rintro ⟨_, hnone, -⟩; cases hnone⟩]
  · obtain ⟨isOpen, hisOpen, hiff⟩ := hopen (fullHour monday 12)
    have hclosed : ¬ earlyMondays.IsOpen monday 720 := by
      rintro ⟨_, -, _, hnone, -⟩
      cases hnone
    rw [hisOpen, Bool.eq_false_iff.2 (mt hiff.1 hclosed)]

theorem ofRow_mondayRow_of_long {t : Written} (h : maxWholeDigits < t.hour.length) :
    DayHours.ofRow (mondayRow t) = .error (.tooManyDigits t.hour.length) := by
  have hweekday : (mondayRow t).require "day_of_week" = .ok (.int 1) := rfl
  have hfirst : (mondayRow t).require "start_time" = .ok (.str t.text) := rfl
  unfold DayHours.ofRow
  simp only [hweekday, hfirst, t.text_unread h, bind, Except.bind, wholeOfCell]

/-- Eight o'clock with 4300 noughts in front of it. -/
def longEight : Written where
  hour := List.replicate 4300 '0' ++ ['8']
  minute := ['0', '0']
  inDigits := by
    refine ⟨fun c hc => ?_, List.all_eq_true.1 (by decide)⟩
    obtain hc | hc := List.mem_append.1 hc
    · rw [List.eq_of_mem_replicate hc]
      decide
    · rw [List.mem_singleton.1 hc]
      decide
  given := ⟨List.append_ne_nil_of_right_ne_nil _ (by decide), by decide⟩
  inDay := by
    rw [digitsValue_append, digitsValue_replicate]
    decide

/-- A number of 4301 digits is too long to be read, though its value is that of an hour. -/
theorem unread_longMonday :
    MinuteHours.IsIn 4301 { weekday := 1, first := 480, last := 720 } (mondayRow longEight) ∧
      DayHours.ofRow (mondayRow longEight) = .error (.tooManyDigits 4301) := by
  have hlength : longEight.hour.length = 4301 := by
    rw [longEight, List.length_append, List.length_replicate]
    rfl
  have hwidth : longEight.width = 4301 := by
    rw [Written.width, hlength]
    rfl
  have hminute : longEight.minuteOfDay = 480 := by
    rw [Written.minuteOfDay, longEight, digitsValue_append, digitsValue_replicate]
    rfl
  have hin := mondayRow_isIn (Nat.le_of_eq hwidth) (by decide)
  have hunread := ofRow_mondayRow_of_long (t := longEight) (by rw [hlength]; decide)
  rw [hminute] at hin
  rw [hlength] at hunread
  exact ⟨hin, hunread⟩

end Calendar

end Parley
