import Parley.Json.Listing
import Parley.Schema.Scalar

/-!
The rules a branch is chosen by.

A rule compares a field with a value and names what follows when it holds: a node, or the label of
an edge.
-/

namespace Parley

open Schema

/-- A rule of a branch. -/
structure Rule where
  id : Option String := none
  /-- What is compared: the message, the contact's name or telephone number, or a variable. -/
  field : String := "message"
  /-- How it is compared. -/
  operator : String := "equals"
  /-- What it is compared with. -/
  value : String := ""
  label : Option String := none
  /-- The node that follows. -/
  target : Option String := none
  /-- Everything else that was written with the rule. -/
  extras : Fields := []
  deriving DecidableEq, Repr

namespace Rule

/-- The value of a rule as text: nothing for null, any other value as it reads. -/
def valueText : Json → String
  | .null => ""
  | v => v.plainText

/-- The names that a rule's parts may stand under. -/
def names : List String :=
  ["id", "field", "operator", "value", "label", "target_node_id", "targetNodeId"]

/-- Reads a rule from a JSON value. -/
def read : Json → Reading Rule
  | .obj fields =>
    let id := optional fields ["id"] none readNullableText
    let field := optional fields ["field"] "message" readText
    let operator := optional fields ["operator"] "equals" readText
    let value := optional fields ["value"] "" fun v => .ok (valueText v)
    let label := optional fields ["label"] none readNullableText
    let target := optional fields ["target_node_id", "targetNodeId"] none readNullableText
    let extras := fields.filter fun p => !names.contains p.1
    ((id.both field).both ((operator.both value).both (label.both target))).map
      fun ((id, field), ((operator, value), (label, target))) =>
        { id, field, operator, value, label, target, extras }
  | _ => .issue .notRecord

/-- How a rule is called: by its label, or else by its name. -/
def caption (r : Rule) : Option String :=
  match r.label with
  | some "" => r.id
  | some label => some label
  | none => r.id

end Rule

end Parley
