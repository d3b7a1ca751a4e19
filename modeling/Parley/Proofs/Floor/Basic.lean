import Mathlib.Logic.Function.Basic
import Parley.Desk.Operations
import Parley.Lock.Basic
import Parley.Store.Ledger
import Parley.Timer.Basic

/-!
# Desks that share a ledger

A `Floor` is any number of desks, each with locks and timers of its own, over one ledger. A job is a
piece of work that a desk has taken on. Jobs take turns question by question, in any order, and the
surroundings answer as they like; only the ledger, the locks and the timers answer by what they
hold. What a job waits for may be long in coming: `Floor.go` leaves a job that cannot go on as it is.

What happens on a floor is an `Event`. `Floor.act` takes one of them, `Floor.run` many; an event that
cannot happen changes nothing. `Floor.opening` is where a run begins: flows, but no conversation yet.
-/

namespace Parley

namespace Timers

variable {κ : Type}

/-- What the pending timers stand for, by id. -/
def actions (ts : Timers κ) : Dictionary κ :=
  ts.queue.map (fun t => (t.id, t.action)) ++ ts.asleep.map fun t => (t.id, t.action)

end Timers

namespace Desk

/-- What a desk is asked to do, or woken for. -/
inductive Errand where
  | start (contact : Contact) (flowId : String) (text name phone : Option String)
  | resume (contact : Contact) (text : Option String)
  | receive (contact : Contact) (text name phone : Option String)
  | cancel (contact : Contact)
  | active (contact : Contact)
  | flowFor (tenant : String) (text : Option String)
  | wake (w : Wake)

/-- What an errand comes to. -/
inductive Outcome where
  | turn (r : TurnResult)
  | cancelled (any : Bool)
  | active (c : Option Conversation)
  | flow (id : Option String)
  | woken (r : Option TurnResult)

namespace Errand

/-- The conversation whose timer went off. -/
def awakened? : Errand → Option String
  | wake w => some w.conversation
  | _ => none

/-- The work of an errand. -/
def work (s : Settings) : Errand → Work Outcome
  | start contact flowId text name phone => do
    let r ← Desk.start s contact flowId text name phone
    pure (.turn r)
  | resume contact text => do
    let r ← Desk.resume s contact text
    pure (.turn r)
  | receive contact text name phone => do
    let r ← Desk.receive s contact text name phone
    pure (.turn r)
  | cancel contact => do
    let any ← Desk.cancel contact
    pure (.cancelled any)
  | active contact => do
    let c ← Desk.active contact
    pure (.active c)
  | flowFor tenant text => do
    let id ← Desk.flowFor tenant text
    pure (.flow id)
  | wake w => do
    let r ← Desk.wake s w
    pure (.woken r)

end Errand

end Desk

open Desk (Errand Outcome)

/-- A piece of work under way at the desk `desk`. -/
structure Job (δ : Type) where
  desk : δ
  errand : Errand
  work : Desk.Work Outcome
  /-- The ids of the conversations that it has kept. -/
  kept : List String := []

/-- A piece of work at its end. -/
structure Finished where
  errand : Errand
  result : Except Failure Outcome
  /-- The ids of the conversations that it has kept. -/
  kept : List String

/-- The conversation whose timer went off for some work, unless that has kept it. -/
def missed (e : Errand) (kept : List String) : Option String :=
  e.awakened?.filter fun id => id ∉ kept

/-- What is on record. -/
structure Books (δ : Type) where
  ledger : Ledger
  timers : δ → Timers Wake := fun _ => {}
  /-- The ids that were made up so far. -/
  issued : List String := []
  finished : List Finished := []

/-- Desks that share a ledger. -/
structure Floor (δ : Type) where
  settings : δ → Desk.Settings
  locks : δ → KeyedLock Nat := fun _ => {}
  /-- The jobs under way, by number. -/
  jobs : Nat → Option (Job δ) := fun _ => none
  books : Books δ

/-- What the surroundings answer. -/
structure Around where
  outside : (q : Outside.Ask) → Except Failure q.Answer
  now : Moment
  freshId : String
  delivery : Except Failure Unit := .ok ()

/-- What can happen on a floor. -/
inductive Event (δ : Type) where
  /-- A desk takes on a job. -/
  | begin (i : Nat) (d : δ) (e : Errand)
  /-- A timer goes off, and its desk takes on what it stands for. -/
  | fire (i : Nat) (d : δ) (id : String)
  /-- A job puts its next question. -/
  | go (i : Nat) (around : Around)
  /-- A job comes to its end. -/
  | finish (i : Nat)
  /-- Somebody else writes an active conversation again as it is. -/
  | rewrite (id : String) (now : Moment)
  /-- Somebody else ends the active conversations of a contact. -/
  | silence (contact : Contact) (now : Moment)
  /-- A flow is added, or put in the place of another one. -/
  | publish (f : Flow)

namespace Floor

variable {δ : Type}

/-- The conversations that a question has kept. -/
def keptBy : (q : Desk.Ask) → q.Answer → List String
  | .store (.create _), .ok c => [c.id]
  | .store (.save _ _), .ok c => [c.id]
  | _, _ => []

/-- The floor with a job in a place, or without one. -/
def assign (f : Floor δ) (i : Nat) (job : Option (Job δ)) : Floor δ :=
  { f with jobs := Function.update f.jobs i job }

section
variable [DecidableEq δ]

/-- The floor with the timers of a desk changed. -/
def setTimers (f : Floor δ) (d : δ) (ts : Timers Wake) : Floor δ :=
  { f with books := { f.books with timers := Function.update f.books.timers d ts } }

/-- The floor with the locks of a desk changed. -/
def setLocks (f : Floor δ) (d : δ) (locks : KeyedLock Nat) : Floor δ :=
  { f with locks := Function.update f.locks d locks }

/-- The answer to a question of a job at a desk, and the floor afterwards. There is none while
another job holds the key, and none that would be an id made up before. -/
def answer (f : Floor δ) (i : Nat) (d : δ) (around : Around) :
    (q : Desk.Ask) → Option q.Answer × Floor δ
  | .outside q => (some (around.outside q), f)
  | .store q =>
    let (reply, ledger) := f.books.ledger.answer around.now q
    (some reply, { f with books := { f.books with ledger } })
  | .now => (some around.now, f)
  | .freshId =>
    if around.freshId ∈ f.books.issued then (none, f)
    else (some around.freshId,
      { f with books := { f.books with issued := around.freshId :: f.books.issued } })
  | .acquire key =>
    let locks := if ((f.locks d).used? i).isSome then f.locks d else (f.locks d).enter i key
    (if locks.holder? key = some i then some () else none, f.setLocks d locks)
  | .release _ => (some (), f.setLocks d ((f.locks d).leave i))
  | .schedule id seconds wake =>
    (some (), f.setTimers d ((f.books.timers d).schedule id seconds wake))
  | .cancelTimer id => (some (), f.setTimers d ((f.books.timers d).cancel id).2)
  | .deliver _ _ => (some around.delivery, f)

/-- A job puts its next question, and goes on where that is answered. -/
def go (f : Floor δ) (i : Nat) (around : Around) : Floor δ :=
  match f.jobs i with
  | none => f
  | some job => match job.work with
    | .ask q next => match f.answer i job.desk around q with
      | (none, f) => f
      | (some r, f) =>
        f.assign i (some { job with work := next r, kept := job.kept ++ keptBy q r })
    | _ => f

end

/-- A desk takes on an errand under a number. -/
def take (f : Floor δ) (i : Nat) (d : δ) (e : Errand) : Floor δ :=
  f.assign i (some { desk := d, errand := e, work := e.work (f.settings d) })

/-- A desk takes on what it is asked to do, if the number is free. -/
def accept (f : Floor δ) (i : Nat) (d : δ) (e : Errand) : Floor δ :=
  if (f.jobs i).isNone && e.awakened?.isNone then f.take i d e else f

/-- A pending timer goes off, if the number for its job is free. -/
def fire [DecidableEq δ] (f : Floor δ) (i : Nat) (d : δ) (id : String) : Floor δ :=
  match Dictionary.find? (f.books.timers d).actions id with
  | some w =>
    if (f.jobs i).isNone then (f.setTimers d ((f.books.timers d).remove id)).take i d (.wake w)
    else f
  | none => f

/-- What work has come to. -/
def result? (work : Desk.Work Outcome) : Option (Except Failure Outcome) :=
  match work with
  | .done a => some (.ok a)
  | .fail e => some (.error e)
  | .ask _ _ => none

/-- A job comes to its end. -/
def finish (f : Floor δ) (i : Nat) : Floor δ :=
  match f.jobs i with
  | none => f
  | some job => match result? job.work with
    | none => f
    | some result =>
      { f with books := { f.books with
          finished := { errand := job.errand, result, kept := job.kept } :: f.books.finished } }.assign
        i none

/-- Somebody else writes an active conversation again as it is. -/
def rewrite (f : Floor δ) (id : String) (now : Moment) : Floor δ :=
  match f.books.ledger.find? id with
  | some c =>
    if c.isActive then
      { f with books := { f.books with ledger := (f.books.ledger.save now c c.version).2 } }
    else f
  | none => f

/-- Somebody else ends the active conversations of a contact. -/
def silence (f : Floor δ) (contact : Contact) (now : Moment) : Floor δ :=
  { f with books :=
    { f.books with ledger := (f.books.ledger.deactivate now contact.key).2 } }

/-- A flow is added, or put in the place of another one. -/
def publish (f : Floor δ) (g : Flow) : Floor δ :=
  { f with books := { f.books with ledger := f.books.ledger.addFlow g } }

/-- What happens changes the floor; what cannot happen changes nothing. -/
def act [DecidableEq δ] (f : Floor δ) : Event δ → Floor δ
  | .begin i d e => f.accept i d e
  | .fire i d id => f.fire i d id
  | .go i around => f.go i around
  | .finish i => f.finish i
  | .rewrite id now => f.rewrite id now
  | .silence contact now => f.silence contact now
  | .publish g => f.publish g

/-- Takes one event after the other. -/
def run [DecidableEq δ] (f : Floor δ) (es : List (Event δ)) : Floor δ := es.foldl act f

/-- A floor at the beginning: desks with their settings, a ledger with flows, and nothing done. -/
def opening (settings : δ → Desk.Settings) (flows : Dictionary Flow) : Floor δ where
  settings
  books := { ledger := { flows } }

theorem run_cons [DecidableEq δ] (f : Floor δ) (e : Event δ) (es : List (Event δ)) :
    f.run (e :: es) = (f.act e).run es := rfl

theorem run_append [DecidableEq δ] (f : Floor δ) (es es' : List (Event δ)) :
    f.run (es ++ es') = (f.run es).run es' := List.foldl_append

end Floor

end Parley
