import Parley.Calendar.Moment
import Parley.Schema.Scalar

/-!
Reading moments.

A moment is written as a date and possibly a time of day behind it, with seconds and a fraction
where they are wanted, and possibly with the distance from universal time. It may also be given as
the number of seconds, or of milliseconds, since the beginning of the year 1970.
-/

namespace Parley.Moment

open Number Schema Text

/-- What is read at the front of a text, and the rest. -/
abbrev Front (α : Type) := List Char → Option (α × List Char)

/-- A number of two digits at the front. -/
def twoDigits : Front Nat := Date.takeDigits? 2

/-- A date with hyphens at the front. -/
def frontDate : Front Date := fun cs => do
  let (year, cs) ← Date.takeDigits? 4 cs
  let cs ← Date.skipHyphen? true cs
  let (month, cs) ← twoDigits cs
  let cs ← Date.skipHyphen? true cs
  let (day, cs) ← twoDigits cs
  let d ← (Date.of year month day).toOption
  some (d, cs)

/-- Whether a character may stand between the date and the time of day. -/
def isSeparator (c : Char) : Bool := c == 'T' || c == 't' || c == ' ' || c == '_'

/-- A fraction of a second at the front, in microseconds; digits beyond the sixth are dropped. -/
def fraction : Front Nat
  | c :: cs =>
    if c = '.' || c = ',' then
      let ds := cs.takeWhile isAsciiDigit
      if ds.isEmpty then none
      else some (digitsValue ((ds ++ List.replicate 6 '0').take 6), cs.drop ds.length)
    else some (0, c :: cs)
  | [] => some (0, [])

/-- A time of day at the front; seconds may be left out. -/
def frontTime : Front TimeOfDay := fun cs => do
  let (hour, cs) ← twoDigits cs
  match cs with
  | ':' :: cs =>
    let (minute, cs) ← twoDigits cs
    let ((second, micro), cs) ← match cs with
      | ':' :: cs => do
        let (second, cs) ← twoDigits cs
        let (micro, cs) ← fraction cs
        some ((second, micro), cs)
      | cs => some ((0, 0), cs)
    if h : hour < 24 ∧ minute < 60 ∧ second < 60 ∧ micro < 1000000 then
      some ({ hour, minute, second, micro, fits := h }, cs)
    else none
  | _ => none

/-- The distance from universal time, in minutes, that takes up the whole text; none where the text
is empty. -/
def offsetOf? : List Char → Option (Option Int)
  | [] => some none
  | ['Z'] | ['z'] => some (some 0)
  | sign :: cs =>
    if sign = '+' || sign = '-' then do
      let (hours, cs) ← twoDigits cs
      let (minutes, cs) ← twoDigits (match cs with
        | ':' :: cs => cs
        | cs => cs)
      let total : Int := hours * 60 + minutes
      if cs.isEmpty && minutes < 60 then some (some (if sign = '-' then -total else total))
      else none
    else none

/-- The moment that takes up a whole text. -/
def ofText? (s : String) : Option Moment := do
  let (date, cs) ← frontDate s.toList
  match cs with
  | [] => some { date, time := ⟨0, 0, 0, 0, by decide⟩, near := isNear_none }
  | c :: cs =>
    if isSeparator c then
      let (time, cs) ← frontTime cs
      let offset ← offsetOf? cs
      if h : isNear offset then some { date, time, offset, near := h } else none
    else none

/-- The beginning of the year 1970 in universal time. -/
def epoch : Moment where
  date := ⟨1970, 1, 1, by decide⟩
  time := ⟨0, 0, 0, 0, by decide⟩
  offset := some 0

/-- The largest number that is taken for seconds; a larger one counts milliseconds. -/
def maxSeconds : Nat := 20000000000

/-- The first and the last second, counted from the epoch, that a number can stand for. -/
def unixRange : Int × Int := (-11676096000, 253402300799)

/-- The moment so many microseconds from the epoch; a number beyond `maxSeconds` seconds is one of
milliseconds. -/
def ofUnixMicros (micros : Int) : Reading Moment :=
  let scaled := if maxSeconds * 1000000 < micros.natAbs then micros / 1000 else micros
  let second := scaled / 1000000
  if second < unixRange.1 || unixRange.2 < second then .issue .momentOutOfRange
  else match epoch.plusMicros scaled with
    | .ok m => .ok m
    | .error _ => .issue .momentOutOfRange

/-- A number of seconds in microseconds, to the nearest one. -/
def microsOf? : Binary64 → Option Int
  | .finite negative m e =>
    let (num, den) := Binary64.scale (m * 1000000) e
    let n : Int := Binary64.roundHalfEven num den
    some (if negative then -n else n)
  | _ => none

/-- The moment of a number of seconds. -/
def ofUnixSeconds (x : Binary64) : Reading Moment :=
  match microsOf? x with
  | some n => ofUnixMicros n
  | none => .issue .momentOutOfRange

/-- Whether a character may be part of a plain decimal number. -/
def isDecimalChar (c : Char) : Bool := isAsciiDigit c || c == '.' || c == '-' || c == '+'

/-- The moment a text is read as: one that is written out, or a number. -/
def readWritten (s : String) : Reading Moment :=
  match ofText? s with
  | some m => .ok m
  | none => match if s.toList.all isDecimalChar then decimal? s.toList else none with
    | some x => match ofUnixSeconds x with
      | .ok m => .ok m
      | _ => .issue .badMoment
    | none => .issue .badMoment

/-- A moment: written as text, or as a number of seconds or milliseconds. -/
def read : Json → Reading Moment
  | .str s => readWritten s
  | .int n => ofUnixMicros (n * 1000000)
  | .float x => ofUnixSeconds x
  | _ => .issue .notMoment

example : (ofText? "2025-01-15T12:00:00.5-03:00").map text
    = some "2025-01-15T12:00:00.500000-03:00" := by
  decide +kernel

end Parley.Moment
