import Parley.Conversation.Reader
import Parley.Json.Reader
import Parley.Table.Database

/-!
Conversations and their history as rows of a database.

A row may leave out what has a usual value, and may keep the variables as a text that holds JSON.
-/

namespace Parley

open Schema

namespace Conversation

/-- The variables in a cell: an object, or a text that holds JSON. -/
def unpackVariables (v : Json) : Except Failure Json :=
  match v.orElse (.obj []) with
  | .str s => (Json.read s).mapError Failure.ofUnreadable
  | v => .ok v

/-- The conversation in a row. -/
def ofRow (now : Moment) (row : Row) : Except Failure Conversation := do
  let vars ← unpackVariables (row.cell "variables")
  let id ← row.require "id"
  let tenant ← row.require "company_id"
  let session ← row.require "messaging_session_id"
  let person ← row.require "contact_id"
  let flowId ← row.require "chat_flow_id"
  let node ← row.require "current_node_id"
  let kept (column name : String) : Fields :=
    ((Dictionary.find? row column).map fun v => [(name, v)]).getD []
  let told (column : String) : Fields :=
    let v := row.cell column
    if v.truthy then [(column, v)] else []
  let fields : Fields := [("id", id), ("tenant_id", tenant), ("channel_session_id", session),
      ("contact_id", person), ("flow_id", flowId), ("current_node_id", node), ("variables", vars)]
    ++ kept "is_active" "is_active" ++ kept "awaiting_input" "awaiting_input"
    ++ told "enter_on_resume" ++ told "version" ++ told "created_at" ++ told "updated_at"
  (readFields "" now fields).toExcept

/-- The columns that a write may change. -/
def changes (c : Conversation) : Fields := [
  ("company_id", .str c.contact.tenant), ("messaging_session_id", .str c.contact.session),
  ("contact_id", .str c.contact.person), ("chat_flow_id", .str c.flowId),
  ("current_node_id", .str c.node), ("is_active", .bool c.isActive),
  ("awaiting_input", .bool c.awaitsInput), ("enter_on_resume", .bool c.entersOnResume),
  ("variables", .obj c.vars), ("version", .int c.version), ("updated_at", .str c.updatedAt.text)]

/-- The row of a conversation. -/
def toRow (c : Conversation) : Row :=
  ("id", .str c.id) :: ("created_at", .str c.createdAt.text) :: c.changes

end Conversation

namespace Entry

/-- The row of an entry. -/
def toRow (e : Entry) : Row := [
  ("contact_flow_state_id", .str e.conversation), ("node_id", .str e.node),
  ("node_type", .str e.nodeKind), ("action", .str e.action.name), ("input", .ofText? e.input),
  ("output", .ofText? e.output), ("condition_result", .ofText? e.label),
  ("created_at", .str e.at_.text)]

/-- The entry in a row. -/
def ofRow (now : Moment) (row : Row) : Except Failure Entry := do
  let conversation ← row.require "contact_flow_state_id"
  let node ← row.require "node_id"
  let nodeKind ← row.require "node_type"
  let action ← row.require "action"
  match Action.read action with
  | .ok _ =>
    let time := row.cell "created_at"
    let fields : Fields := [("instance_id", conversation), ("node_id", node),
        ("node_type", nodeKind), ("action", action), ("input", row.cell "input"),
        ("output", row.cell "output"), ("condition_label", row.cell "condition_result")]
      ++ (if time.truthy then [("timestamp", time)] else [])
    (readFields now fields).toExcept
  | _ => .error (.unknownAction action.listing)

end Entry

end Parley
