import Parley.Calendar.Tables
import Parley.Desk.Operations
import Parley.Lock.Basic
import Parley.Rehearsal.Peer
import Parley.Rehearsal.Shelf
import Parley.Rehearsal.Timed

/-!
A stage on which a desk works with scripted surroundings.

Calls to other systems, media and business hours follow scripts; where the store is a database,
media and hours are looked up in its tables. The clock stands still between two settings of it, and
every piece of work runs to its end before the next begins. What the desk does is logged.
-/

namespace Parley.Rehearsal

/-- What somebody else does to a contact's active conversation while a call is under way. -/
inductive Meddling where
  /-- Writes it again as it is. -/
  | save
  | deactivate
  deriving DecidableEq, Repr

/-- How a call goes. -/
structure CallLine where
  answer : Except Failure CallAnswer := .ok { success := true, status := some 200 }
  meddling : Option Meddling := none

/-- Who answers calls. -/
inductive Caller where
  | scripted (script : Script CallLine)
  | wired (peer : Peer)

/-- The answers about business hours. -/
structure HoursScript where
  isOpen : Script (Except Failure Bool) := []
  next : Script (Except Failure (Option Moment)) := []

/-- What a desk has done since the log was begun. -/
structure Log where
  history : List Entry := []
  calls : List CallRequest := []
  /-- The media that were asked for, each with the company that asked. -/
  media : List (String × String) := []
  deliveries : List (Conversation × TurnResult) := []

/-- The surroundings of a desk, but for clock and timers. -/
structure Stage where
  backing : Store.Backing
  start : Moment := Clock.usualStart
  settings : Desk.Settings := {}
  /-- How many ids were given out. -/
  ids : Nat := 0
  locks : KeyedLock Unit := {}
  caller : Caller := .scripted []
  media : Dictionary (Except Failure MediaReference) := []
  hours : HoursScript := {}
  /-- The kinds of nodes that cannot be entered, with the reason. -/
  broken : List (NodeKind × String) := []
  keepsHistory : Bool := true
  /-- Why deliveries fail, where they do. -/
  deliveryFault : Option String := none
  /-- The contact that meddlers know. -/
  contact : Contact
  log : Log := {}

/-- A stage with its clock and timers. -/
abbrev Play := Timed Wake Stage

namespace Play

/-- The present. -/
def now (p : Play) : Moment := Clock.now { start := p.world.start, elapsed := p.elapsed }

/-- The play with its stage changed. -/
def change (f : Stage → Stage) (p : Play) : Play := { p with world := f p.world }

/-- The play with its log changed. -/
def note (f : Log → Log) (p : Play) : Play := p.change fun s => { s with log := f s.log }

/-- Puts a question to the store. -/
def askStore (q : Store.Ask) (p : Play) : Except Failure q.Answer × Play :=
  let (reply, backing) := p.world.backing.answer p.now q
  (reply, p.change fun s => { s with backing })

/-- Puts requests to the database, where there is one; otherwise `instead` answers. -/
def askTables {α : Type} (requests : Program Database.Access α)
    (instead : Play → Except Failure α × Play) (p : Play) : Except Failure α × Play :=
  match p.world.backing.database? with
  | some db =>
    let (reply, db) := Database.run requests db
    (reply, p.change fun s => { s with backing := .database db })
  | none => instead p

/-- Lets somebody else do something to the active conversation. -/
def meddle (m : Meddling) (p : Play) : Play :=
  match m with
  | .deactivate => (p.askStore (.deactivate p.world.contact)).2
  | .save =>
    match p.askStore (.active p.world.contact) with
    | (.ok (some c), p) => (p.askStore (.save c c.version)).2
    | (_, p) => p

/-- Answers a call. -/
def answerCall (r : CallRequest) (p : Play) : Except Failure CallAnswer × Play :=
  match p.world.caller with
  | .scripted script =>
    let p := p.note fun l => { l with calls := l.calls ++ [r] }
    let (line, script) := script.next {}
    let p := p.change fun s => { s with caller := .scripted script }
    (line.answer, (line.meddling.map fun m => p.meddle m).getD p)
  | .wired peer =>
    let call := Http.call r.url r.method r.headers r.body (.first [some (.exact r.timeout)])
    let (answer, peer) := Peer.run call peer
    (answer, p.change fun s => { s with caller := .wired peer })

/-- Answers by the script who asks for a medium. -/
def scriptedMedia (id tenant : String) (p : Play) : Except Failure (Option MediaReference) × Play :=
  let p := p.note fun l => { l with media := l.media ++ [(id, tenant)] }
  (match Dictionary.find? p.world.media id with
    | none => .ok none
    | some answer => answer.map some, p)

/-- Answers by the script whether a company is open. -/
def scriptedOpen (p : Play) : Except Failure Bool × Play :=
  let (answer, isOpen) := p.world.hours.isOpen.next (.ok true)
  (answer, p.change fun s => { s with hours := { s.hours with isOpen } })

/-- Answers by the script when a company opens next. -/
def scriptedNext (p : Play) : Except Failure (Option Moment) × Play :=
  let (answer, next) := p.world.hours.next.next (.ok none)
  (answer, p.change fun s => { s with hours := { s.hours with next } })

/-- Answers a question to the outside. -/
def answerOutside : (q : Outside.Ask) → Play → Except Failure q.Answer × Play
  | .enter kind, p =>
    (match p.world.broken.find? (·.1 == kind) with
      | some (_, message) => .error (.raised message)
      | none => .ok (), p)
  | .call r, p => p.answerCall r
  | .media id tenant, p => p.askTables (MediaReference.find? MediaReference.defaultBucket id tenant)
      (scriptedMedia id tenant)
  | .isOpen tenant, p => p.askTables (Calendar.openNow tenant p.now) scriptedOpen
  | .nextOpening tenant, p => p.askTables (Calendar.opensNext tenant p.now) scriptedNext

/-- Answers a question to the store; entries that are kept are logged. -/
def answerStore : (q : Store.Ask) → Play → Except Failure q.Answer × Play
  | .append e, p =>
    if p.world.keepsHistory then match p.askStore (.append e) with
      | (.ok (), p) => (.ok (), p.note fun l => { l with history := l.history ++ [e] })
      | (.error f, p) => (.error f, p)
    else (.error (.raised "history"), p)
  | q, p => p.askStore q

/-- Takes a delivery. -/
def takeDelivery (c : Conversation) (r : TurnResult) (p : Play) : Except Failure Unit × Play :=
  let p := p.note fun l => { l with deliveries := l.deliveries ++ [(c, r)] }
  (match p.world.deliveryFault with
    | some message => .error (.raised message)
    | none => .ok (), p)

/-- Answers a question of the desk. -/
def answer : (q : Desk.Ask) → Play → q.Answer × Play
  | .outside q, p => p.answerOutside q
  | .store q, p => p.answerStore q
  | .now, p => (p.now, p)
  | .freshId, p =>
    let p := p.change fun s => { s with ids := s.ids + 1 }
    (Shelf.idName p.world.ids, p)
  | .acquire key, p => ((), p.change fun s => { s with locks := s.locks.enter () key })
  | .release _, p => ((), p.change fun s => { s with locks := s.locks.leave () })
  | .schedule id seconds wake, p => ((), { p with timers := p.timers.schedule id seconds wake })
  | .cancelTimer id, p => ((), { p with timers := (p.timers.cancel id).2 })
  | .deliver c r, p => p.takeDelivery c r

/-- Has the desk do some work. -/
def work {α : Type} (w : Desk.Work α) (p : Play) : Except Failure α × Play := w.run answer p

/-- Lets a timer go off. -/
def fire (w : Wake) (p : Play) : Play := (p.work (Desk.wake p.world.settings w)).2

end Play

end Parley.Rehearsal
