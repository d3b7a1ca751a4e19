import Parley.Calendar.Hours

/-!
When a business is open.

A calendar has hours for the days of the week and holidays. What holds on a day (`Calendar.plan`) is
told by the first holiday on it, where that closes the day or gives it hours of its own, and
otherwise by the first hours of its weekday. Whether it is open is found by comparing times as
texts.
-/

namespace Parley

open Text

/-- Weekly hours and holidays. -/
structure Calendar where
  week : List DayHours
  holidays : List Holiday := []
  deriving DecidableEq, Repr

/-- What holds on a day. -/
inductive DayPlan where
  | closed
  /-- Hours that hold on this day only. -/
  | special (opens closes : Option String)
  | usual (hours : DayHours)
  deriving DecidableEq, Repr

namespace Calendar

/-- From Monday to Friday from eight to five; the weekend is closed. -/
def defaultWeek : List DayHours :=
  ([1, 2, 3, 4, 5].map fun day => { weekday := day, opens := some "08:00", closes := some "17:00" })
    ++ [6, 0].map fun day =>
      { weekday := day, opens := some "08:00", closes := some "12:00", isActive := false }

/-- The first holiday on a day. -/
def holiday? (c : Calendar) (date : Date) : Option Holiday := c.holidays.find? (·.isOn date)

/-- The hours of a day of the week, where it has any and they are in force. -/
def usualPlan (c : Calendar) (date : Date) : DayPlan :=
  match c.week.find? (·.weekday == Int.ofNat date.weekday) with
  | some hours => if hours.isActive then .usual hours else .closed
  | none => .closed

/-- What holds on a day. -/
def plan (c : Calendar) (date : Date) : DayPlan :=
  match c.holiday? date with
  | some h =>
    if h.kind.closesDay then .closed
    else if h.kind = .specialHours then .special h.opens h.closes
    else c.usualPlan date
  | none => c.usualPlan date

/-- Whether a time lies between two others, both included. Both have to be there, the second one
only if the first does not settle it. -/
def within (first : Option String) (time : String) (last : Option String) : Except Failure Bool :=
  match first with
  | none => .error (.unordered "NoneType" "str")
  | some first =>
    if first ≤ time then match last with
      | none => .error (.unordered "str" "NoneType")
      | some last => .ok (decide (time ≤ last))
    else .ok false

/-- Whether a time lies between two others that are both given. -/
def withinGiven (first : Option String) (time : String) (last : Option String) : Bool :=
  match first, last with
  | some first, some last =>
    first != "" && last != "" && decide (first ≤ time) && decide (time ≤ last)
  | _, _ => false

/-- Whether it is open at a moment. -/
def isOpenAt (c : Calendar) (now : Moment) : Except Failure Bool :=
  let time := now.time.hourMinute
  match c.plan now.date with
  | .closed => .ok false
  | .special opens closes => .ok (withinGiven opens time closes)
  | .usual hours =>
    (within hours.opens time hours.closes).map fun inHours =>
      inHours && !withinGiven hours.breakStart time hours.breakEnd

/-- The time at which a day opens. -/
def openingTime? (c : Calendar) (date : Date) : Option String :=
  let time := match c.plan date with
    | .closed => none
    | .special opens _ => opens
    | .usual hours => hours.opens
  time.filter (· != "")

/-- How many days ahead an opening is looked for, this day included. -/
def lookahead : Nat := 7

/-- The first opening on one of the days so many days ahead. On the day itself it counts only while
it is still to come. -/
def openingAmong (c : Calendar) (now : Moment) : List Nat → Except Failure (Option Moment)
  | [] => .ok none
  | days :: rest => do
    let day ← now.plusDays days
    match c.openingTime? day.date with
    | none => openingAmong c now rest
    | some time =>
      let opening ← ClockTime.set day time
      if 0 < days || now.isBefore opening then .ok (some opening) else openingAmong c now rest

/-- The next opening within a week. -/
def nextOpening (c : Calendar) (now : Moment) : Except Failure (Option Moment) :=
  c.openingAmong now (List.range lookahead)

/-- The names of the days of the week. -/
def dayNames : List String :=
  ["Domingo", "Segunda-feira", "Terça-feira", "Quarta-feira", "Quinta-feira", "Sexta-feira",
    "Sábado"]

/-- An opening in words. -/
def openingText (m : Moment) : String :=
  dayNames.getD m.date.weekday "" ++ ", " ++ Date.padded 2 m.date.day ++ "/"
    ++ Date.padded 2 m.date.month ++ "/" ++ natText m.date.year ++ " às " ++ m.time.hourMinute

end Calendar

end Parley
