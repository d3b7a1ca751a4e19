import Parley.Text.Blank
import Parley.Text.Digit
import Parley.Text.Quoted

/-!
Whole numbers written by people.

Blanks around the number, a sign and digits of any script are allowed; single underscores may stand
between digits.
-/

namespace Parley.Number

open Text

/-- Digits with single underscores between them; `acc` is the value read so far and `after` tells
whether a digit stands directly before. -/
def groupedDigits? (acc : Nat) (after : Bool) : List Char → Option Nat
  | [] => if after then some acc else none
  | c :: cs =>
    match digitValue? c with
    | some d => groupedDigits? (10 * acc + d) true cs
    | none => if c = '_' && after then groupedDigits? acc false cs else none

/-- Why a text is no whole number. -/
inductive WholeFault where
  /-- It holds something else. -/
  | malformed
  /-- It has more digits than allowed. -/
  | tooManyDigits (digits : Nat)
  deriving DecidableEq, Repr

/-- The largest number of digits that is read. -/
def maxWholeDigits : Nat := 4300

/-- The whole number that a text holds. -/
def readWhole (s : String) : Except WholeFault Int :=
  let (negative, cs) := match stripChars s.toList with
    | '-' :: cs => (true, cs)
    | '+' :: cs => (false, cs)
    | cs => (false, cs)
  match groupedDigits? 0 false cs with
  | none => .error .malformed
  | some n =>
    let digits := (cs.filter isDigit).length
    if maxWholeDigits < digits then .error (.tooManyDigits digits)
    else .ok (if negative then -(n : Int) else n)

example : (readWhole " -1_0٣ ").toOption = some (-103) ∧ (readWhole "1__0").toOption = none := by
  decide +kernel

end Parley.Number
