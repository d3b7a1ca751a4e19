import Parley.Rehearsal.Timed

/-!
Timers that note when they go off.

An alarm notes its label when it goes off; then it may cancel a timer, set another alarm and fail. A
failure changes nothing.
-/

namespace Parley.Rehearsal

open Number

/-- What a timer does when it goes off. -/
inductive Alarm where
  | mk (label : String) (cancels : Option String) (again : Option (String × Binary64 × Alarm))
      (failure : Option String)

instance : Inhabited Alarm := ⟨.mk "" none none none⟩

/-- What is noted: an alarm went off, or one cancelled a timer with or without effect. -/
inductive Note where
  | fired (label : String)
  | cancelled (label id : String) (found : Bool)
  deriving DecidableEq, Repr

/-- Timers with what was noted so far. -/
abbrev Alarms := Timed Alarm (List Note)

namespace Alarms

/-- Notes something. -/
def note (n : Note) (w : Alarms) : Alarms := { w with world := w.world ++ [n] }

/-- Cancels a timer. -/
def cancel (id : String) (w : Alarms) : Bool × Alarms :=
  let (found, timers) := w.timers.cancel id
  (found, { w with timers })

/-- Sets an alarm. -/
def schedule (id : String) (seconds : Binary64) (a : Alarm) (w : Alarms) : Alarms :=
  { w with timers := w.timers.schedule id seconds a }

/-- Lets an alarm go off. -/
def fire : Alarm → Alarms → Alarms
  | .mk label cancels again _, w =>
    let w := note (.fired label) w
    let w := match cancels with
      | some id =>
        let (found, w) := cancel id w
        note (.cancelled label id found) w
      | none => w
    match again with
    | some (id, seconds, a) => schedule id seconds a w
    | none => w

/-- What is done to the timers. -/
inductive Deed where
  | schedule (id : String) (seconds : Binary64) (a : Alarm)
  | cancel (id : String)
  | pending (id : String)
  | advance (seconds : Binary64)
  | shutdown

/-- Does something to the timers; the answer is that of a question or of a cancellation. -/
def perform : Deed → Alarms → Option Bool × Alarms
  | .schedule id seconds a, w => (none, schedule id seconds a w)
  | .cancel id, w =>
    let (found, w) := cancel id w
    (some found, w)
  | .pending id, w => (some (w.timers.isPending id), w)
  | .advance seconds, w => (none, Timed.advance fire seconds w)
  | .shutdown, w => (none, { w with timers := {} })

/-- What a step comes to: the answer, what was noted in it, and the ids pending after it. -/
structure Report where
  answer : Option Bool
  notes : List Note
  pending : List String

/-- Does something; unless it is held back, everything then runs until nothing is left to do. -/
def step (deed : Deed) (hold : Bool) (w : Alarms) : Report × Alarms :=
  let (answer, w) := perform deed { w with world := [] }
  let w := if hold then w else Timed.settle fire w
  ({ answer, notes := w.world, pending := w.timers.ids.mergeSort fun a b => decide (a ≤ b) }, w)

/-- Does one thing after the other. -/
def run : List (Deed × Bool) → Alarms → List Report
  | [], _ => []
  | (deed, hold) :: rest, w =>
    let (report, w) := step deed hold w
    report :: run rest w

end Alarms

end Parley.Rehearsal
