import Parley.Failure
import Parley.Text.Digit

/-!
Dates of the Gregorian calendar, from the year 1 to the year 9999.

A date is a year, a month and a day that exist. Days are counted from the first of January of the
year 1, which is day 1 and a Monday (`Date.number`); going on by some days goes through that count.
A date is written as year, month and day with hyphens. It is read from that form, from the form
without hyphens, and from a year, a week of the year and a weekday.
-/

namespace Parley

open Text

namespace Calendar

/-- Whether a year has a 29th of February. -/
def isLeap (year : Nat) : Bool := year % 4 == 0 && (year % 100 != 0 || year % 400 == 0)

/-- How many days the months of a year have. -/
def monthLengths (year : Nat) : List Nat :=
  [31, if isLeap year then 29 else 28, 31, 30, 31, 30, 31, 31, 30, 31, 30, 31]

/-- How many days a month has; months are counted from 1. -/
def daysIn (year month : Nat) : Nat := (monthLengths year).getD (month - 1) 0

/-- How many days come before a year. -/
def daysBeforeYear (year : Nat) : Nat :=
  let y := year - 1
  365 * y + y / 4 - y / 100 + y / 400

/-- How many days of the year come before a month. -/
def daysBeforeMonth (year month : Nat) : Nat :=
  ((monthLengths year).take (month - 1)).foldr (· + ·) 0

/-- The last year. -/
def maxYear : Nat := 9999

/-- Whether there is such a day. -/
def Exists (year month day : Nat) : Prop :=
  (1 ≤ year ∧ year ≤ maxYear) ∧ (1 ≤ month ∧ month ≤ 12) ∧ 1 ≤ day ∧ day ≤ daysIn year month

instance (year month day : Nat) : Decidable (Exists year month day) := by
  unfold Exists; infer_instance

end Calendar

open Calendar

/-- A day of the calendar. -/
@[ext]
structure Date where
  year : Nat
  month : Nat
  day : Nat
  exists_ : Exists year month day := by decide
  deriving DecidableEq, Repr

namespace Date

/-- The date of a year, a month and a day. -/
def of (year month day : Nat) : Except Failure Date :=
  if h : Exists year month day then .ok ⟨year, month, day, h⟩
  else if year < 1 ∨ maxYear < year then .error (.yearOutOfRange year)
  else if month < 1 ∨ 12 < month then .error .monthOutOfRange
  else .error .dayOutOfRange

/-- The count of a day: 1 for the first of January of the year 1. -/
def number (d : Date) : Nat := daysBeforeYear d.year + daysBeforeMonth d.year d.month + d.day

/-- The year that holds the day of a count. -/
def yearOfNumber (n : Nat) : Nat :=
  let guess := 400 * (n - 1) / 146097 + 1
  if n ≤ daysBeforeYear guess then guess - 1
  else if daysBeforeYear (guess + 1) < n then guess + 1
  else guess

/-- The month of a day of the year, for months of the given lengths from month `m` on, and the day
within it. -/
def monthOfDay (m day : Nat) : List Nat → Nat × Nat
  | [] => (m, day)
  | len :: rest => if day ≤ len then (m, day) else monthOfDay (m + 1) (day - len) rest

/-- The day of a count. -/
def ofNumber (n : Nat) : Except Failure Date :=
  let year := yearOfNumber n
  let (month, day) := monthOfDay 1 (n - daysBeforeYear year) (monthLengths year)
  of year month day

/-- The day some days later. -/
def plusDays (d : Date) (days : Nat) : Except Failure Date :=
  match ofNumber (d.number + days) with
  | .ok e => .ok e
  | .error _ => .error .momentOutOfRange

/-- The day of the week: 0 for a Sunday. -/
def weekday (d : Date) : Nat := d.number % 7

/-- Whether a date comes before another. -/
def isBefore (a b : Date) : Bool := a.number < b.number

/-- A number with noughts in front, at least `width` digits. -/
def padded (width n : Nat) : String :=
  let digits := Nat.toDigits 10 n
  String.ofList (List.replicate (width - digits.length) '0' ++ digits)

/-- The date as year, month and day with hyphens. -/
def text (d : Date) : String := padded 4 d.year ++ "-" ++ padded 2 d.month ++ "-" ++ padded 2 d.day

/-- A number of exactly `n` ASCII digits at the front, and the rest. -/
def takeDigits? (n : Nat) (cs : List Char) : Option (Nat × List Char) :=
  let ds := cs.take n
  if ds.length = n ∧ ds.all isAsciiDigit then some (digitsValue ds, cs.drop n) else none

/-- A hyphen at the front where one is wanted, and the rest. -/
def skipHyphen? (wanted : Bool) (cs : List Char) : Option (List Char) :=
  if wanted then match cs with
    | '-' :: cs => some cs
    | _ => none
  else some cs

/-- The count of the Monday of a year's first week, which is the week of the fourth of January. -/
def firstMonday (year : Nat) : Nat :=
  let fourth := daysBeforeYear year + 4
  fourth - (fourth + 6) % 7

/-- How many weeks a year has: 53 when it starts on a Thursday, or on a Wednesday as a leap year. -/
def weeksIn (year : Nat) : Nat :=
  let first := (daysBeforeYear year + 1) % 7
  if first = 4 ∨ (first = 3 ∧ isLeap year) then 53 else 52

/-- The date of a year, a week and a day of the week; both are counted from 1, the week starts on a
Monday. Nothing when there is no such week or day. -/
def ofWeek? (year week day : Nat) : Option (Except Failure Date) :=
  if week < 1 ∨ weeksIn year < week ∨ day < 1 ∨ 7 < day then none
  else if year = 0 then some (.error .monthOutOfRange)
  else some (ofNumber (firstMonday year + 7 * (week - 1) + (day - 1)))

/-- The date at the front of a text, where it has the form of one. -/
def parts? (cs : List Char) : Option (Except Failure Date) := do
  let (year, cs) ← takeDigits? 4 cs
  let hyphens := cs.head? == some '-'
  let cs := if hyphens then cs.drop 1 else cs
  match cs with
  | 'W' :: cs =>
    let (week, cs) ← takeDigits? 2 cs
    if cs.isEmpty then ofWeek? year week 1
    else
      let cs ← skipHyphen? hyphens cs
      let (day, _) ← takeDigits? 1 cs
      ofWeek? year week day
  | cs =>
    let (month, cs) ← takeDigits? 2 cs
    let cs ← skipHyphen? hyphens cs
    let (day, _) ← takeDigits? 2 cs
    some (of year month day)

/-- The date that a text of 7, 8 or 10 bytes starts with. -/
def read (s : String) : Except Failure Date :=
  if [7, 8, 10].contains s.utf8ByteSize then (parts? s.toList).getD (.error (.badDate s))
  else .error (.badDate s)

example : (read "2025-W43-1").toOption.map text = some "2025-10-20" := by decide +kernel

example : (read "20240229").toOption.map weekday = some 4 ∧ (read "2100-02-29").toOption = none :=
  by decide +kernel

end Date

end Parley
