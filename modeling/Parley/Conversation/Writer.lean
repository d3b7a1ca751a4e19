import Parley.Conversation.Basic

/-!
Conversations and their history as objects.
-/

namespace Parley

/-- A conversation as an object; `moment` says how moments are written. -/
def Conversation.toJson (moment : Moment → String) (c : Conversation) : Json := .obj [
  ("id", .str c.id), ("tenant_id", .str c.contact.tenant),
  ("channel_session_id", .str c.contact.session), ("contact_id", .str c.contact.person),
  ("flow_id", .str c.flowId), ("current_node_id", .str c.node),
  ("is_active", .bool c.isActive), ("awaiting_input", .bool c.awaitsInput),
  ("enter_on_resume", .bool c.entersOnResume), ("variables", .obj c.vars),
  ("version", .int c.version), ("created_at", .str (moment c.createdAt)),
  ("updated_at", .str (moment c.updatedAt))]

/-- What an entry tells, but for its moment. -/
def Entry.toFields (e : Entry) : Fields := [
  ("instance_id", .str e.conversation), ("node_id", .str e.node), ("node_type", .str e.nodeKind),
  ("action", .str e.action.name), ("input", .ofText? e.input), ("output", .ofText? e.output),
  ("condition_label", .ofText? e.label)]

end Parley
