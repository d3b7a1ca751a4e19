import Parley.Conversation.Row
import Parley.Rehearsal.Stage
import Parley.Service.Routes

/-!
Scenes: what is asked of a desk on a stage, and what comes of it.

After every scene everything runs until nothing is left to do without time passing. The report of a
scene tells what came of it, which conversations are new or changed, what was logged, and which
timers are pending.
-/

namespace Parley.Rehearsal

open Number

/-- What is asked for. -/
inductive Cue where
  | start (flow : String) (text name phone : Option String)
  | resume (text : Option String)
  | receive (text name phone : Option String)
  | flowFor (text : Option String)
  | cancel
  | active
  /-- Sets the clock forward. -/
  | advance (seconds : Binary64)
  /-- Goes on with a conversation as if its timer had gone off. -/
  | wake (conversation flow node : String)
  /-- Adds a flow or puts it in the place of the one of its id. -/
  | addFlow (flow : Json)
  /-- Makes a kind of node fail when it is entered. -/
  | spoil (kind : NodeKind) (message : String)
  | mend (kind : NodeKind)
  | dropTimers
  | request (r : Service.Request)

/-- A cue and the contact it is for. -/
structure Scene where
  contact : Contact
  cue : Cue

/-- What came of a cue. -/
inductive Outcome where
  | nothing
  | turn (r : TurnResult)
  | flag (b : Bool)
  | flow (id : String)
  | conversation (c : Conversation)
  | reply (r : Service.Reply)

/-- One thing, or several at once. -/
inductive Act where
  | single (s : Scene)
  | together (scenes : List Scene)

/-- What a scene comes to. -/
structure SceneReport where
  outcomes : List (Except Failure Outcome)
  /-- The conversations that are new or changed. -/
  changed : List Conversation
  log : Log
  requests : List Http.Request
  /-- The conversations that have a timer. -/
  timers : List String

namespace Play

/-- The outcome of work on the desk. -/
def outcome {α : Type} (f : α → Outcome) (w : Desk.Work α) (p : Play) :
    Except Failure Outcome × Play :=
  let (result, p) := p.work w
  (result.map f, p)

/-- Adds a flow. -/
def addFlow (v : Json) (p : Play) : Except Failure Outcome × Play :=
  match (Flow.read v).toExcept with
  | .ok f => (.ok .nothing, p.change fun s => { s with backing := s.backing.addFlow f })
  | .error e => (.error e, p)

/-- Makes a kind of node fail, or work again without a message. -/
def spoil (kind : NodeKind) (message : Option String) (p : Play) : Play :=
  p.change fun s =>
    let rest := s.broken.filter (·.1 != kind)
    { s with broken := (message.map fun m => (kind, m)).toList ++ rest }

/-- Does what a cue asks for. -/
def perform (contact : Contact) (cue : Cue) (p : Play) : Except Failure Outcome × Play :=
  let p := p.change fun s => { s with contact }
  let settings := p.world.settings
  match cue with
  | .start flow text name phone =>
    p.outcome .turn (Desk.start settings contact flow text name phone)
  | .resume text => p.outcome .turn (Desk.resume settings contact text)
  | .receive text name phone => p.outcome .turn (Desk.receive settings contact text name phone)
  | .flowFor text => p.outcome (·.elim .nothing .flow) (Desk.flowFor contact.tenant text)
  | .cancel => p.outcome .flag (Desk.cancel contact)
  | .active => p.outcome (·.elim .nothing .conversation) (Desk.active contact)
  | .advance seconds => (.ok .nothing, Timed.advance fire seconds p)
  | .wake conversation flow node =>
    p.outcome (·.elim .nothing .turn) (Desk.wake settings { contact, conversation, flow, node })
  | .addFlow v => p.addFlow v
  | .spoil kind message => (.ok .nothing, p.spoil kind (some message))
  | .mend kind => (.ok .nothing, p.spoil kind none)
  | .dropTimers => (.ok .nothing, { p with timers := {} })
  | .request r => p.outcome .reply (Service.handle settings r)

/-- Performs scenes one after the other. -/
def performAll : List Scene → Play → List (Except Failure Outcome) × Play
  | [], p => ([], p)
  | s :: rest, p =>
    let (first, p) := p.perform s.contact s.cue
    let (others, p) := performAll rest p
    (first :: others, p)

/-- The stored conversations as rows. -/
def rows (p : Play) : List (Row × Option Conversation) :=
  match p.world.backing with
  | .memory ledger => ledger.all.map fun c => (c.toRow, some c)
  | .database db =>
    (db.rows Store.conversationTable).map fun row => (row, (Conversation.ofRow p.now row).toOption)

/-- The requests that were sent. -/
def requests (p : Play) : List Http.Request :=
  match p.world.caller with
  | .wired peer => peer.requests
  | .scripted _ => []

/-- The play with nothing logged. -/
def begun (p : Play) : Play :=
  p.change fun s => { s with
    log := {}
    caller := match s.caller with
      | .wired peer => .wired { peer with requests := [] }
      | caller => caller }

/-- Performs an act. -/
def act (a : Act) (p : Play) : SceneReport × Play :=
  let before := p.rows.map (·.1)
  let (outcomes, p) := performAll (match a with
    | .single s => [s]
    | .together scenes => scenes) p.begun
  let p : Play := Timed.settle fire p
  ({ outcomes
     changed := p.rows.filterMap fun (row, c) => if before.contains row then none else c
     log := p.world.log
     requests := p.requests
     timers := p.timers.ids.mergeSort fun a b => decide (a ≤ b) }, p)

/-- Performs one act after the other. -/
def run : List Act → Play → List SceneReport × Play
  | [], p => ([], p)
  | a :: rest, p =>
    let (report, p) := p.act a
    let (reports, p) := run rest p
    (report :: reports, p)

end Play

end Parley.Rehearsal
