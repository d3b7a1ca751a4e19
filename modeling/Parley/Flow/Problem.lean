import Parley.Flow.Basic
import Parley.Text.Digit

/-!
What can be amiss with a flow.

A problem is one of the causes below. Errors make a flow unusable, warnings are told only. A
`Finding` is a problem as it is reported, in words.
-/

namespace Parley

open Text

/-- How bad a problem is. -/
inductive Severity where
  | error
  | warning
  deriving DecidableEq, Repr

/-- The name of a severity. -/
def Severity.name : Severity → String
  | .error => "error"
  | .warning => "warning"

/-- Something that is amiss with a flow. -/
inductive Problem where
  | noStart
  /-- One of the nodes beyond the first, of so many, that a conversation could start with. -/
  | severalStarts (count : Nat) (node : String)
  | duplicateEdge (edge : String)
  | missingSource (edge source : String)
  | missingTarget (edge target source : String)
  | severalDefaults (count : Nat) (node : String)
  | unknownKind (kind node : String)
  | noVariable (node : String)
  | noAddress (node : String)
  | missingRuleTarget (caption : Option String) (target node : String)
  | unresolvedRule (caption : Option String) (node : String)
  | unreachable (node : String)
  | deadEnd (node : String) (kind : NodeKind)
  | idleLoop (node : String)
  deriving DecidableEq, Repr

namespace Problem

/-- The code of a problem. -/
def code : Problem → String
  | noStart => "MISSING_START_NODE"
  | severalStarts _ _ => "MULTIPLE_START_NODES"
  | duplicateEdge _ => "DUPLICATE_EDGE_ID"
  | missingSource _ _ => "INVALID_EDGE_SOURCE"
  | missingTarget _ _ _ => "INVALID_EDGE_TARGET"
  | severalDefaults _ _ => "MULTIPLE_DEFAULT_EDGES"
  | unknownKind _ _ => "UNKNOWN_NODE_TYPE"
  | noVariable _ => "MISSING_VARIABLE_NAME"
  | noAddress _ => "MISSING_WEBHOOK_URL"
  | missingRuleTarget _ _ _ => "INVALID_CONDITION_TARGET"
  | unresolvedRule _ _ => "UNRESOLVED_CONDITION"
  | unreachable _ => "ORPHAN_NODE"
  | deadEnd _ _ => "DEAD_END"
  | idleLoop _ => "AUTO_ADVANCE_LOOP"

/-- How bad a problem is. -/
def severity : Problem → Severity
  | unknownKind _ _ | unreachable _ | deadEnd _ _ | idleLoop _ => .warning
  | _ => .error

/-- The node that a problem is shown at. -/
def node? : Problem → Option String
  | noStart | duplicateEdge _ | missingSource _ _ => none
  | severalStarts _ node | severalDefaults _ node | unknownKind _ node | noVariable node
  | noAddress node | missingRuleTarget _ _ node | unresolvedRule _ node | unreachable node
  | deadEnd node _ | idleLoop node => some node
  | missingTarget _ _ source => some source

/-- How a kind of node is called in a message. -/
def kindLabel : NodeKind → String
  | .other name => name
  | kind => "NodeType." ++ upper kind.name

/-- A caption in a message. -/
def captionText (caption : Option String) : String := caption.getD "None"

/-- A problem in words. -/
def message : Problem → String
  | noStart => "Flow has no start node"
  | severalStarts count _ => "Flow has " ++ natText count ++ " start nodes"
  | duplicateEdge edge => "Duplicate edge id: " ++ edge
  | missingSource edge source => "Edge '" ++ edge ++ "' source '" ++ source ++ "' does not exist"
  | missingTarget edge target _ => "Edge '" ++ edge ++ "' target '" ++ target ++ "' does not exist"
  | severalDefaults count _ => "Node has " ++ natText count ++ " unlabeled outgoing edges"
  | unknownKind kind _ => "Unknown node type '" ++ kind ++ "' will be passed through"
  | noVariable _ => "Input node has no variableName"
  | noAddress _ => "Webhook node has no URL"
  | missingRuleTarget caption target _ =>
    "Condition '" ++ captionText caption ++ "' targets missing node '" ++ target ++ "'"
  | unresolvedRule caption _ =>
    "Condition '" ++ captionText caption ++ "' has no target node or labeled edge"
  | unreachable node => "Node '" ++ node ++ "' is not reachable from start node"
  | deadEnd node kind =>
    "Node '" ++ node ++ "' (" ++ kindLabel kind ++ ") has no outgoing edge; the flow ends there"
  | idleLoop node => "Node '" ++ node ++ "' is part of a loop that never waits for input"

end Problem

/-- A problem as it is reported. -/
structure Finding where
  code : String
  message : String
  node : Option String := none
  severity : String := "error"
  deriving DecidableEq, Repr

/-- A finding in one line. -/
def Finding.text (f : Finding) : String :=
  "[" ++ upper f.severity ++ "] " ++ f.code ++ ": " ++ f.message
    ++ match f.node with
      | none | some "" => ""
      | some node => " [Node: " ++ node ++ "]"

/-- The report of a problem. -/
def Problem.finding (p : Problem) : Finding := ⟨p.code, p.message, p.node?, p.severity.name⟩

/-- Why a flow cannot be used, in words. -/
def refusalText (flow : Option String) (findings : List Finding) : String :=
  let details := "; ".intercalate (findings.map (·.text))
  "Flow " ++ flow.getD "None" ++ " is invalid: "
    ++ if details = "" then "invalid definition" else details

end Parley
