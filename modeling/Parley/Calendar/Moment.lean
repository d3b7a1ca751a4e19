import Parley.Calendar.Date

/-!
Moments: a date, a time of day to the microsecond, and possibly the distance of its clock from
universal time.

A moment is written with a `T` between date and time; microseconds are written where there are any.
-/

namespace Parley

open Text

/-- A time of day. -/
@[ext]
structure TimeOfDay where
  hour : Nat
  minute : Nat
  second : Nat := 0
  micro : Nat := 0
  fits : hour < 24 ∧ minute < 60 ∧ second < 60 ∧ micro < 1000000 := by decide
  deriving DecidableEq, Repr

namespace TimeOfDay

/-- How many microseconds a day has. -/
def perDay : Nat := 86400000000

/-- How many microseconds a time of day is after midnight. -/
def micros (t : TimeOfDay) : Nat := ((t.hour * 60 + t.minute) * 60 + t.second) * 1000000 + t.micro

/-- The time of day so many microseconds after midnight; whole days are dropped. -/
def ofMicros (n : Nat) : TimeOfDay where
  hour := n / 3600000000 % 24
  minute := n / 60000000 % 60
  second := n / 1000000 % 60
  micro := n % 1000000
  fits := by
    refine ⟨Nat.mod_lt _ ?_, Nat.mod_lt _ ?_, Nat.mod_lt _ ?_, Nat.mod_lt _ ?_⟩ <;> decide

/-- Hours and minutes with a colon between them. -/
def hourMinute (t : TimeOfDay) : String := Date.padded 2 t.hour ++ ":" ++ Date.padded 2 t.minute

/-- The time of day as it stands behind a date. -/
def text (t : TimeOfDay) : String :=
  t.hourMinute ++ ":" ++ Date.padded 2 t.second
    ++ (if t.micro = 0 then "" else "." ++ Date.padded 6 t.micro)

end TimeOfDay

/-- Whether a clock is less than a day away from universal time, as far as that is known. -/
def isNear (offset : Option Int) : Bool := offset.all fun minutes => minutes.natAbs < 1440

theorem isNear_none : isNear none := rfl

/-- A moment. -/
@[ext]
structure Moment where
  date : Date
  time : TimeOfDay
  /-- How many minutes its clock is ahead of universal time, where that is known. -/
  offset : Option Int := none
  near : isNear offset := by decide
  deriving DecidableEq, Repr

namespace Moment

/-- How many microseconds have passed by the moment's own clock since the day before the first. -/
def micros (m : Moment) : Nat := m.date.number * TimeOfDay.perDay + m.time.micros

/-- Whether a moment comes before another by their own clocks. -/
def isBefore (a b : Moment) : Bool := a.micros < b.micros

/-- The moment some microseconds later. -/
def plusMicros (m : Moment) (n : Int) : Except Failure Moment :=
  let total := m.micros + n
  if total < 0 then .error .momentOutOfRange
  else match Date.ofNumber (total.toNat / TimeOfDay.perDay) with
    | .ok date => .ok { m with date, time := .ofMicros (total.toNat % TimeOfDay.perDay) }
    | .error _ => .error .momentOutOfRange

/-- The same time some days later. -/
def plusDays (m : Moment) (days : Nat) : Except Failure Moment :=
  (m.date.plusDays days).map fun date => { m with date }

/-- The moment by its own clock. -/
def localText (m : Moment) : String := m.date.text ++ "T" ++ m.time.text

/-- How far a clock is ahead of universal time, as hours and minutes. -/
def offsetText (minutes : Int) : String :=
  (if minutes < 0 then "-" else "+") ++ Date.padded 2 (minutes.natAbs / 60) ++ ":"
    ++ Date.padded 2 (minutes.natAbs % 60)

/-- The moment with the distance of its clock from universal time, where that is known. -/
def text (m : Moment) : String := m.localText ++ (m.offset.map offsetText).getD ""

end Moment

end Parley
