import Parley.Rehearsal.Clock
import Parley.Timer.Basic

/-!
Timers on a clock that is set forward.

Between two settings of the clock everything runs until nothing is left to do (`Timed.settle`). When
the clock is set forward (`Timed.advance`) the timers go off in the order in which they are due,
each with the clock at its time. How often timers may go off at one stretch is bounded.
-/

namespace Parley.Rehearsal

open Number

/-- Timers, the seconds that have passed, and whatever else there is. -/
structure Timed (κ σ : Type) where
  timers : Timers κ := {}
  elapsed : Binary64 := .zero
  world : σ

namespace Timed

variable {κ σ : Type}

/-- How often timers may go off at one stretch. -/
def patience : Nat := 1000000

/-- Lets timers go off as long as one can without any time passing; `fire` does what one of them
stands for. -/
def settleWith (fire : κ → Timed κ σ → Timed κ σ) : (fuel : Nat) → Timed κ σ → Timed κ σ
  | 0, w => w
  | fuel + 1, w =>
    match w.timers.next w.elapsed with
    | (none, timers) => { w with timers }
    | (some timer, timers) => settleWith fire fuel (fire timer.action { w with timers })

/-- Lets everything run until nothing is left to do. -/
def settle (fire : κ → Timed κ σ → Timed κ σ) (w : Timed κ σ) : Timed κ σ :=
  settleWith fire patience w

/-- Wakes the timers that are due up to a time, one after the other. -/
def advanceTo (fire : κ → Timed κ σ → Timed κ σ) (target : Binary64) :
    (fuel : Nat) → Timed κ σ → Timed κ σ
  | 0, w => { w with elapsed := target }
  | fuel + 1, w =>
    match w.timers.firstDue target with
    | none => { w with elapsed := target }
    | some sleeper =>
      let woken := { w with timers := w.timers.wake sleeper, elapsed := sleeper.due }
      advanceTo fire target fuel (settle fire woken)

/-- Sets the clock forward. -/
def advance (fire : κ → Timed κ σ → Timed κ σ) (seconds : Binary64) (w : Timed κ σ) : Timed κ σ :=
  advanceTo fire (w.elapsed.add seconds) patience w

end Timed

end Parley.Rehearsal
