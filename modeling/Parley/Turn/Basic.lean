import Parley.Conversation.Basic
import Parley.Flow.Basic
import Parley.Turn.Result

/-!
The state of a turn.

A turn works on a copy of a conversation; what it says and what is to be told of it is collected
until it ends. Nothing of it is kept before then.
-/

namespace Parley

open Number

/-- A turn under way. -/
structure Turn where
  conversation : Conversation
  flow : Flow
  /-- The version at which the conversation was read. -/
  version : Int
  /-- Whether it is the first turn of its conversation, which is not kept yet. -/
  isNew : Bool := false
  /-- The message that no node has taken yet. -/
  pending : Option String := none
  /-- What was said. -/
  texts : List String := []
  media : List MediaReference := []
  history : List Entry := []
  /-- How long it waits for a timer, where it does. -/
  delay : Option Binary64 := none
  /-- The moment at which it began. -/
  start : Moment

namespace Turn

/-- The variables of the conversation. -/
def vars (t : Turn) : Fields := t.conversation.vars

/-- Gives a variable a value. -/
def assign (t : Turn) (name : String) (value : Json) : Turn :=
  { t with conversation := t.conversation.assign name value }

/-- The turn without its message. -/
def withoutInput (t : Turn) : Turn := { t with pending := none }

/-- The turn standing at a node. -/
def standAt (t : Turn) (id : String) : Turn :=
  { t with conversation := { t.conversation with node := id } }

/-- Says something; an empty text is not said. -/
def say (t : Turn) (text : Option String) (media : Option MediaReference) : Turn :=
  { t with
    texts := t.texts ++ text.toList.filter (· != "")
    media := t.media ++ media.toList }

/-- An entry for the history of the conversation. -/
def entry (t : Turn) (n : Node) (action : Action) (input output label : Option String := none) :
    Entry where
  conversation := t.conversation.id
  node := n.id
  nodeKind := n.kind.name
  action := action
  input := input
  output := output
  label := label
  at_ := t.start

/-- Notes what happened at a node. -/
def record (t : Turn) (n : Node) (action : Action) (input output label : Option String := none) :
    Turn := { t with history := t.history ++ [t.entry n action input output label] }

/-- The turn at its end, waiting for an answer. -/
def awaiting (t : Turn) : Turn :=
  { t with conversation := { t.conversation with awaitsInput := true } }

/-- The turn at its end, waiting for a timer. -/
def parked (t : Turn) : Turn :=
  { t with conversation := { t.conversation with awaitsInput := false } }

/-- The turn at the end of the conversation. -/
def ended (t : Turn) : Turn := { t with conversation := t.conversation.finished }

/-- The turn cut short before a node that the next one enters. -/
def cut (t : Turn) (id : String) : Turn :=
  { t with conversation :=
    { t.conversation with node := id, awaitsInput := true, entersOnResume := true } }

/-- Everything that was said, one text after the other. -/
def text (t : Turn) (separator : String) : Option String :=
  if t.texts.isEmpty then none else some (separator.intercalate t.texts)

end Turn

end Parley
