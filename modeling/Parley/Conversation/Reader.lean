import Parley.Calendar.Reader
import Parley.Conversation.Basic

/-!
Reading conversations and their history.

A conversation without an id is given a new one, and moments that are left out are the present.
-/

namespace Parley

open Schema

/-- A value that is read as one of the domain only when it is an object. -/
def readRecord {α : Type} (f : Fields → Reading α) : Json → Reading α
  | .obj fields => f fields
  | _ => .issue .notRecord

namespace Conversation

/-- Whether a value lacks the id of a conversation. -/
def lacksId : Json → Bool
  | .obj fields => !Dictionary.has fields "id"
  | _ => false

/-- A conversation from its parts. -/
def readFields (newId : String) (now : Moment) (fields : Fields) : Reading Conversation :=
  let build (id tenant session person flowId node : String)
      (isActive awaitsInput entersOnResume : Bool) (vars : Fields) (version : Int)
      (createdAt updatedAt : Moment) : Conversation :=
    { id, contact := { tenant, session, person }, flowId, node, isActive, awaitsInput,
      entersOnResume, vars, version, createdAt, updatedAt }
  build <$> optional fields ["id"] newId readText
    <*> required fields ["tenant_id"] readText
    <*> required fields ["channel_session_id"] readText
    <*> required fields ["contact_id"] readText
    <*> required fields ["flow_id"] readText
    <*> required fields ["current_node_id"] readText
    <*> optional fields ["is_active"] true readTruth
    <*> optional fields ["awaiting_input"] false readTruth
    <*> optional fields ["enter_on_resume"] false readTruth
    <*> optional fields ["variables"] [] readObject
    <*> optional fields ["version"] 0 readWhole
    <*> optional fields ["created_at"] now Moment.read
    <*> optional fields ["updated_at"] now Moment.read

/-- A conversation. -/
def read (newId : String) (now : Moment) : Json → Reading Conversation :=
  readRecord (readFields newId now)

end Conversation

/-- An action by its name. -/
def Action.read : Json → Reading Action
  | .str s => match Action.ofName? s with
    | some a => .ok a
    | none => .issue .notAmong
  | _ => .issue .notAmong

namespace Entry

/-- An entry from its parts. -/
def readFields (now : Moment) (fields : Fields) : Reading Entry :=
  let build (conversation node nodeKind : String) (action : Action)
      (input output label : Option String) (at_ : Moment) : Entry :=
    { conversation, node, nodeKind, action, input, output, label, at_ }
  build <$> required fields ["instance_id"] readText
    <*> required fields ["node_id"] readText
    <*> required fields ["node_type"] readText
    <*> required fields ["action"] Action.read
    <*> optional fields ["input"] none readNullableText
    <*> optional fields ["output"] none readNullableText
    <*> optional fields ["condition_label"] none readNullableText
    <*> optional fields ["timestamp"] now Moment.read

/-- An entry of a history. -/
def read (now : Moment) : Json → Reading Entry := readRecord (readFields now)

end Entry

end Parley
