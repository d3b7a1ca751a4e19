import Parley.Json.Listing
import Parley.Number.Binary64
import Parley.Text.Blank

/-!
The number at the front of a text.

Blanks, a sign and digits of any script with a point are read; what follows is ignored, so that
"18 years" gives eighteen.
-/

namespace Parley.Number

open Text

/-- A sign at the front: whether it is a minus, and the rest. -/
def takeSign : List Char → Bool × List Char
  | '-' :: cs => (true, cs)
  | '+' :: cs => (false, cs)
  | cs => (false, cs)

/-- Digits at the front with at most one point among them: those before and behind it. A point needs
a digit on one of its sides. -/
def takeDigits (cs : List Char) : Option (List Char × List Char) :=
  let whole := cs.takeWhile isDigit
  match cs.dropWhile isDigit with
  | '.' :: rest =>
    let fraction := rest.takeWhile isDigit
    if whole.isEmpty && fraction.isEmpty then none else some (whole, fraction)
  | _ => if whole.isEmpty then none else some (whole, [])

/-- The number at the front of a text. -/
def leadingNumber? (s : String) : Option Binary64 :=
  let (negative, cs) := takeSign (stripFront s.toList)
  (takeDigits cs).map fun (whole, fraction) =>
    .ofDecimal negative (digitsValue (whole ++ fraction)) (-fraction.length)

/-- Whether both texts begin with numbers that are related. -/
def compareLeading (related : Binary64 → Binary64 → Bool) (a b : String) : Bool :=
  match leadingNumber? a, leadingNumber? b with
  | some x, some y => related x y
  | _, _ => false

example : leadingNumber? " 18 anos" = some (.ofInt 18)
    ∧ leadingNumber? "-.5" = some (.ofDecimal true 5 (-1))
    ∧ leadingNumber? "x" = none := by decide +kernel

end Parley.Number
