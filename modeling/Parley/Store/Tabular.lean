import Parley.Conversation.Row
import Parley.Flow.Row
import Parley.Store.Interface

/-!
A store in the tables of a database.

Each question becomes a program of requests; between two of its requests others may write. A write
of a conversation is conditional on the version in its row.
-/

namespace Parley.Store

/-- The tables of a store. -/
def flowTable : String := "chat_flows"

/-- The table of conversations. -/
def conversationTable : String := "contact_flow_states"

/-- The table of histories. -/
def historyTable : String := "contact_flow_history"

namespace Tabular

/-- A program of requests to the database. -/
abbrev Requests := Program Database.Access

/-- What the first of the rows holds, where there is one. -/
def first? {α : Type} (read : Row → Except Failure α) (rows : List Row) :
    Except Failure (Option α) :=
  match rows with
  | [] => .ok none
  | row :: _ => (read row).map some

/-- The filters for the rows of a contact's active conversations. -/
def activeOf (contact : Contact) : List Filter := [
  .equal "company_id" (.str contact.tenant), .equal "messaging_session_id" (.str contact.session),
  .equal "contact_id" (.str contact.person), .equal "is_active" (.bool true)]

/-- The flow of an id. -/
def flow (tenant id : String) : Requests (Option Flow) := do
  let rows ← Database.put (.select flowTable
    [.equal "id" (.str id), .equal "company_id" (.str tenant)])
  Program.ofExcept (first? Flow.ofRow rows)

/-- Whether a row that cannot be read is passed over. One without an id, or with a part that cannot
be gone through, is not. -/
def isPassedOver : Failure → Bool
  | .missingColumn _ | .notIterable _ => false
  | _ => true

/-- The flows in rows, without those that cannot be read. -/
def readable : List Row → Except Failure (List Flow)
  | [] => .ok []
  | row :: rows => match Flow.ofRow row with
    | .ok f => (readable rows).map (f :: ·)
    | .error e => if isPassedOver e then readable rows else .error e

/-- The flows that a company can start, oldest first. -/
def enabledFlows (tenant : String) : Requests (List Flow) := do
  let rows ← Database.put (.select flowTable
    [.equal "company_id" (.str tenant), .equal "is_active" (.bool true)] (some "created_at"))
  Program.ofExcept (readable rows)

/-- The active conversation of a contact. -/
def active (now : Moment) (contact : Contact) : Requests (Option Conversation) := do
  let rows ← Database.put (.select conversationTable (activeOf contact))
  Program.ofExcept (first? (Conversation.ofRow now) rows)

/-- The conversation of an id. -/
def conversation (now : Moment) (id : String) : Requests (Option Conversation) := do
  let rows ← Database.put (.select conversationTable [.equal "id" (.str id)])
  Program.ofExcept (first? (Conversation.ofRow now) rows)

/-- Keeps a new conversation. -/
def create (now : Moment) (c : Conversation) : Requests Conversation := do
  let stored := { c with version := 1 }
  let rows ← Database.put (.insert conversationTable stored.toRow)
  match rows with
  | [] => pure stored
  | row :: _ => Program.ofExcept (Conversation.ofRow now row)

/-- Writes a conversation over the expected version of it. -/
def save (now : Moment) (c : Conversation) (expected : Int) : Requests Conversation := do
  let stored := { c with version := expected + 1, updatedAt := now }
  let rows ← Database.put (.update conversationTable stored.changes
    [.equal "id" (.str c.id), .equal "version" (.int expected)])
  match rows with
  | [] => do
    let found ← conversation now c.id
    Program.fail (.conflict c.id expected (found.map (·.version)))
  | row :: _ => Program.ofExcept (Conversation.ofRow now row)

/-- The version that follows the one in a row, the first where there is none. -/
def nextVersion (row : Row) : Except Failure Json :=
  let v := row.cell "version"
  if v.truthy then
    match v with
    | .int n => .ok (.int (n + 1))
    | .bool _ => .ok (.int 2)
    | .float x => .ok (.float (x.add (.ofInt 1)))
    | v => .error (.notCounted v.kindName)
  else .ok (.int 1)

/-- Ends the conversations in rows, one after the other. -/
def deactivateRows (now : Moment) : List Row → Requests (List String)
  | [] => pure []
  | row :: rows => do
    let id := row.cell "id"
    let version ← Program.ofExcept (nextVersion row)
    let _ ← Database.put (.update conversationTable
      [("is_active", .bool false), ("awaiting_input", .bool false),
        ("version", version), ("updated_at", .str now.text)]
      [.equal "id" id])
    let ids ← deactivateRows now rows
    pure (id.text :: ids)

/-- Ends all active conversations of a contact. -/
def deactivate (now : Moment) (contact : Contact) : Requests (List String) := do
  let rows ← Database.put (.select conversationTable (activeOf contact))
  deactivateRows now rows

/-- Adds to a history. -/
def append (e : Entry) : Requests Unit := do
  let _ ← Database.put (.insert historyTable e.toRow)
  pure ()

/-- The history of a conversation, oldest entry first. -/
def history (now : Moment) (id : String) : Requests (List Entry) := do
  let rows ← Database.put (.select historyTable [.equal "contact_flow_state_id" (.str id)]
    (some "created_at"))
  Program.ofExcept (rows.mapM (Entry.ofRow now))

/-- The requests by which a question is answered at a moment. -/
def requests (now : Moment) : (q : Ask) → Requests q.Answer
  | .flow tenant id => flow tenant id
  | .enabledFlows tenant => enabledFlows tenant
  | .active contact => active now contact
  | .conversation id => conversation now id
  | .create c => create now c
  | .save c expected => save now c expected
  | .deactivate contact => deactivate now contact
  | .append e => append e
  | .history id => history now id

/-- Answers a question at a moment, with no other writes between the requests. -/
def answer (now : Moment) (q : Ask) (db : Database) : Except Failure q.Answer × Database :=
  Database.run (requests now q) db

end Tabular

end Parley.Store
