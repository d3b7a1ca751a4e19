import Parley.Calendar.Moment
import Parley.Number.Binary64

/-!
A clock that stands still until it is set forward.

The time that has passed is a sum of seconds; the present is the start with that sum added to it, to
the nearest microsecond.
-/

namespace Parley.Rehearsal

open Number

/-- A clock: where it started and how many seconds have passed since. -/
structure Clock where
  start : Moment
  elapsed : Binary64 := .zero
  deriving DecidableEq, Repr

namespace Clock

/-- Noon of the fifteenth of January 2025. -/
def usualStart : Moment where
  date := ⟨2025, 1, 15, by decide⟩
  time := ⟨12, 0, 0, 0, by decide⟩

/-- A million. -/
def million : Binary64 := .ofInt 1000000

/-- The microseconds in a number of seconds, to the nearest one: the whole seconds exactly, the
fraction as a product. -/
def microsOf : Binary64 → Int
  | .finite negative m e =>
    let (num, den) := Binary64.scale m e
    let n : Int := match (Binary64.ofRatio false (num % den) den).mul million with
      | .finite _ m e =>
        let (p, q) := Binary64.scale m e
        (num / den * 1000000 + Binary64.roundHalfEven p q : Nat)
      | _ => 0
    if negative then -n else n
  | _ => 0

/-- The present. -/
def now (c : Clock) : Moment :=
  match c.start.plusMicros (microsOf c.elapsed) with
  | .ok m => m
  | .error _ => c.start

/-- The clock set to a time. -/
def set (c : Clock) (elapsed : Binary64) : Clock := { c with elapsed }

/-- The time that will have passed after some more seconds. -/
def after (c : Clock) (seconds : Binary64) : Binary64 := c.elapsed.add seconds

end Clock

end Parley.Rehearsal
