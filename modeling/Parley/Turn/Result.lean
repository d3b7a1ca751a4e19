import Parley.Media.Reference
import Parley.Json.Listing

/-!
What a visit to a node and what a whole turn come to.

A visit ends with a step: where the turn goes and what is said. A turn ends with a result, which
holds everything that was said in it and how the conversation stands.
-/

namespace Parley

/-- Where a turn goes after a node. -/
inductive Onward where
  /-- To a node; the message may be handed on to it. -/
  | next (id : String) (keepsInput : Bool := false)
  /-- It waits at the node for an answer. -/
  | wait
  /-- It waits at the node for a timer. -/
  | park
  /-- The conversation is over. -/
  | finish
  deriving DecidableEq, Repr

namespace Onward

/-- The name of a way to go on. -/
def name : Onward → String
  | next _ _ => "continue"
  | wait => "wait"
  | park => "park"
  | finish => "finish"

/-- The node that comes next. -/
def node? : Onward → Option String
  | next id _ => some id
  | wait | park | finish => none

/-- Whether the message is handed on. -/
def keepsInput : Onward → Bool
  | next _ keeps => keeps
  | wait | park | finish => false

end Onward

/-- What a visit to a node comes to. -/
structure Step where
  onward : Onward
  text : Option String := none
  media : Option MediaReference := none
  deriving DecidableEq, Repr

/-- A step in words. -/
def Step.caption (s : Step) : String :=
  "NodeResult(" ++ s.onward.name ++ ", next=" ++ s.onward.node?.getD "None" ++ ")"

/-- What a turn comes to. -/
structure TurnResult where
  success : Bool
  /-- Everything that was said. -/
  text : Option String := none
  /-- The media that were sent, in order. -/
  media : List MediaReference := []
  awaitsInput : Bool := false
  conversation : Option String := none
  node : Option String := none
  finished : Bool := false
  error : Option String := none
  deriving DecidableEq, Repr

namespace TurnResult

/-- A turn that failed. -/
def failed (error : String) (conversation node : Option String := none) : TurnResult :=
  { success := false, error := some error, conversation, node }

/-- Whether there is something to say to the contact. -/
def hasResponse (r : TurnResult) : Bool := r.text.getD "" != "" || !r.media.isEmpty

/-- A result as an object. -/
def toFields (r : TurnResult) : Fields := [
  ("success", .bool r.success), ("response_text", .ofText? r.text),
  ("media_ref", (r.media.head?.map MediaReference.toJson).getD .null),
  ("media_refs", .arr (r.media.map MediaReference.toJson)), ("awaiting_input", .bool r.awaitsInput),
  ("instance_id", .ofText? r.conversation), ("node_id", .ofText? r.node),
  ("finished", .bool r.finished), ("error", .ofText? r.error)]

/-- A result in words. -/
def caption (r : TurnResult) : String :=
  let status := if r.success then "OK" else "ERROR: " ++ r.error.getD "None"
  "ExecutionResult(node=" ++ r.node.getD "None"
    ++ ", awaiting=" ++ (Json.bool r.awaitsInput).listing ++ ", finished=" ++ (Json.bool r.finished).listing ++ ", status=" ++ status ++ ")"

end TurnResult

end Parley
