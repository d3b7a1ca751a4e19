import Parley.Calendar.Moment
import Parley.Json.Listing
import Parley.Number.Whole
import Parley.Text.Search

/-!
Times of day as text: hours and minutes, each with at least two digits.

A time may be written with fewer digits, with seconds behind it and with blanks around its numbers;
`ClockTime.text` brings it into the one form in which times are kept. Hours and minutes are not
bounded there; only setting a clock (`ClockTime.set`) asks for a time that exists.
-/

namespace Parley

open Number Text

/-- Why a text is no whole number, as a failure. -/
def Failure.ofWholeFault (text : String) : WholeFault → Failure
  | .malformed => .badWholeText text
  | .tooManyDigits digits => .tooManyDigits digits

/-- The whole number that a text holds. -/
def wholeOfText (text : String) : Except Failure Int :=
  (readWhole text).mapError (Failure.ofWholeFault text)

namespace ClockTime

/-- The hours and minutes of a time written with colons. -/
def parts (s : String) : Except Failure (Int × Int) :=
  match splitAtChar ':' s.toList with
  | hour :: minute :: _ => do
    let hour ← wholeOfText (String.ofList hour)
    let minute ← wholeOfText (String.ofList minute)
    .ok (hour, minute)
  | _ => .error .missingMinutes

/-- A whole number in at least two places. -/
def twoPlaces (n : Int) : String := if n < 0 then intText n else Date.padded 2 n.toNat

/-- The form in which a time is kept; null and the empty text are no time. -/
def text : Json → Except Failure (Option String)
  | .null => .ok none
  | .str "" => .ok none
  | v => (parts v.text).map fun (hour, minute) => some (twoPlaces hour ++ ":" ++ twoPlaces minute)

/-- A part of a time as a machine word of 32 bits. -/
def word (n : Int) : Except Failure Int :=
  let wide : Int := Nat.pow 2 63
  let narrow : Int := Nat.pow 2 31
  if n < -wide ∨ wide ≤ n then .error .clockTooWide
  else if narrow ≤ n then .error .clockTooLarge
  else if n < -narrow then .error .clockTooSmall
  else .ok n

/-- The moment of a day at which its clock shows the given time. -/
def set (day : Moment) (time : String) : Except Failure Moment := do
  let (hour, minute) ← parts time
  let hour ← word hour
  let minute ← word minute
  if h : 0 ≤ hour ∧ hour < 24 then
    if m : 0 ≤ minute ∧ minute < 60 then
      .ok { day with time := {
        hour := hour.toNat, minute := minute.toNat
        fits := by refine ⟨?_, ?_, ?_, ?_⟩ <;> omega } }
    else .error .minuteOutOfRange
  else .error .hourOutOfRange

end ClockTime

end Parley
