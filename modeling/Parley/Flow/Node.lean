import Parley.Condition.Rule
import Parley.Number.Binary64

/-!
The nodes of a conversation.

A node has an id and a body that says what happens when a conversation reaches it. What an author
wrote beside the known parts is kept as it came.
-/

namespace Parley

open Number

/-- What sort of node a node is. -/
inductive NodeKind where
  | start
  | message
  | image
  | file
  | input
  | condition
  | delay
  | webhook
  | transfer
  | ticket
  | ending
  /-- A kind that is not known here, by its name. -/
  | other (name : String)
  deriving DecidableEq, Repr

namespace NodeKind

/-- The name of a kind. -/
def name : NodeKind → String
  | start => "start"
  | message => "message"
  | image => "image"
  | file => "file"
  | input => "input"
  | condition => "condition"
  | delay => "delay"
  | webhook => "webhook"
  | transfer => "transfer"
  | ticket => "ticket"
  | ending => "end"
  | other name => name

/-- The known kinds. -/
def known : List NodeKind :=
  [start, message, image, file, input, condition, delay, webhook, transfer, ticket, ending]

/-- The kind of a name. -/
def ofName (name : String) : NodeKind := (known.find? (·.name == name)).getD (other name)

/-- Whether a conversation may end with a node of the kind without anything being amiss. -/
def isTerminal : NodeKind → Bool
  | transfer | ticket | ending => true
  | _ => false

end NodeKind

/-- A text for the contact. -/
structure Message where
  text : Option String := none
  /-- Whether the conversation waits for an answer before it goes on. -/
  awaitInput : Bool := true
  deriving DecidableEq, Repr

/-- A stored picture or file, or one at an address, with a caption. -/
structure Attachment where
  caption : Option String := none
  awaitInput : Bool := true
  mediaId : Option String := none
  mediaUrl : Option String := none
  fileName : Option String := none
  mimeType : Option String := none
  deriving DecidableEq, Repr

/-- A question whose answer is checked and kept. -/
structure Question where
  text : Option String := none
  /-- The variable that the answer is kept in. -/
  variable_ : Option String := none
  /-- The format that the answer must have. -/
  format : String := "text"
  placeholder : Option String := none
  required : Bool := true
  /-- What is said when the answer is refused. -/
  refusal : Option String := none
  deriving DecidableEq, Repr

/-- A choice between several ways on. -/
structure Branch where
  text : Option String := none
  rules : List Rule := []
  deriving DecidableEq, Repr

/-- The unit a pause is given in. -/
inductive TimeUnit where
  | seconds
  | minutes
  | hours
  deriving DecidableEq, Repr

namespace TimeUnit

/-- The name of a unit. -/
def name : TimeUnit → String
  | seconds => "seconds"
  | minutes => "minutes"
  | hours => "hours"

/-- How many seconds a unit has. -/
def length : TimeUnit → Nat
  | seconds => 1
  | minutes => 60
  | hours => 3600

/-- The unit of a name. -/
def ofName? (s : String) : Option TimeUnit := [seconds, minutes, hours].find? (·.name == s)

end TimeUnit

/-- A pause. -/
structure Pause where
  /-- How long it is, where that was given. -/
  amount : Option Binary64 := none
  unit : TimeUnit := .seconds
  deriving DecidableEq, Repr

/-- The length of a pause in seconds. -/
def Pause.length (p : Pause) : Binary64 :=
  (p.amount.getD .zero).mul (.ofInt p.unit.length)

/-- How a call proves who makes it. -/
structure Credentials where
  wanted : Bool := false
  scheme : Option String := none
  token : Option String := none
  keyHeader : Option String := none
  keyValue : Option String := none
  userName : Option String := none
  password : Option String := none
  deriving DecidableEq, Repr

/-- A call to another system. -/
structure Call where
  url : String := ""
  method : String := "POST"
  headers : Dictionary String := []
  credentials : Credentials := {}
  /-- Whether the variables are sent. -/
  sendsVariables : Bool := false
  /-- Whether it is sent whose conversation it is. -/
  sendsMetadata : Bool := false
  /-- What else is sent. -/
  payload : Json := .null
  /-- Whether the answer is kept. -/
  keepsAnswer : Bool := false
  /-- The variable that the answer is kept in. -/
  answerVariable : Option String := none
  /-- The longest wait for an answer, in seconds. -/
  timeout : Option Binary64 := none
  deriving DecidableEq, Repr

/-- The passage of a conversation to a person. -/
structure Handover where
  text : Option String := none
  /-- What is said when nobody is there. -/
  closedText : Option String := none
  checksHours : Bool := true
  department : Option String := none
  deriving DecidableEq, Repr

/-- A ticket to be opened. -/
structure Ticket where
  text : Option String := none
  category : Option String := none
  priority : Option String := none
  deriving DecidableEq, Repr

/-- Whether an attachment is shown as a picture or offered as a file. -/
inductive AttachmentKind where
  | image
  | file
  deriving DecidableEq, Repr

/-- What happens at a node. -/
inductive Body where
  | start
  | message (m : Message)
  | attachment (kind : AttachmentKind) (a : Attachment)
  | question (q : Question)
  | branch (b : Branch)
  | pause (p : Pause)
  | call (c : Call)
  | handover (h : Handover)
  | ticket (t : Ticket)
  | ending (text : Option String)
  | unknown (kind : String)
  deriving DecidableEq, Repr

/-- The kind of node that a body belongs to. -/
def Body.kind : Body → NodeKind
  | .start => .start
  | .message _ => .message
  | .attachment .image _ => .image
  | .attachment .file _ => .file
  | .question _ => .input
  | .branch _ => .condition
  | .pause _ => .delay
  | .call _ => .webhook
  | .handover _ => .transfer
  | .ticket _ => .ticket
  | .ending _ => .ending
  | .unknown kind => .other kind

/-- A node of a conversation. -/
structure Node where
  id : String
  body : Body
  label : Option String := none
  /-- Everything else that was written with the node. -/
  extras : Fields := []
  deriving DecidableEq, Repr

/-- The kind of a node. -/
def Node.kind (n : Node) : NodeKind := n.body.kind

/-- The rules of a node that branches; no others have any. -/
def Node.rules (n : Node) : List Rule :=
  match n.body with
  | .branch b => b.rules
  | _ => []

end Parley
