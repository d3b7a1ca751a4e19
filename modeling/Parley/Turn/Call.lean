import Parley.Template.Payload
import Parley.Text.Base64
import Parley.Turn.Basic
import Parley.Turn.Outside

/-!
The call that a node makes: where it goes, its headers and what is sent.
-/

namespace Parley.Turn

open Number Text

/-- The name under which calls are made. -/
def userAgent : String := "ChatFlow-Webhook/1.0"

/-- The longest wait for an answer where a node does not say. -/
def usualTimeout : Binary64 := .ofInt 30

/-- A text that is given and not empty. -/
def given (s : Option String) : Option String := s.filter (· != "")

/-- The header that proves who calls, where all that it takes is given. -/
def authorization? (c : Credentials) : Option (String × String) :=
  match lower (c.scheme.getD "") with
  | "bearer" => (given c.token).map fun token => ("Authorization", "Bearer " ++ token)
  | "api-key" => do
    let header ← given c.keyHeader
    let value ← given c.keyValue
    some (header, value)
  | "basic" => do
    let name ← given c.userName
    let password ← given c.password
    some ("Authorization", "Basic " ++ base64 (name ++ ":" ++ password))
  | _ => none

/-- The headers of a call: the usual ones, the node's own, the proof of who calls. -/
def headers (c : Call) (vars : Fields) : Dictionary String :=
  let usual := [("Content-Type", "application/json"), ("User-Agent", userAgent)]
  let own := c.headers.map fun (name, value) => (name, Template.render value vars)
  let all := Dictionary.update usual own
  match if c.credentials.wanted then authorization? c.credentials else none with
  | some (name, value) => Dictionary.put all name value
  | none => all

/-- Whose conversation it is. -/
def metadata (t : Turn) : Json :=
  let c := t.conversation
  .obj [("company_id", .str c.contact.tenant), ("contact_id", .str c.contact.person),
    ("session_id", .str c.contact.session), ("flow_id", .str c.flowId),
    ("timestamp", .str t.start.text)]

/-- What is sent with a call: the variables and the metadata where they are wanted, and the members
of the node's own payload, where that is an object. -/
def payload (t : Turn) (c : Call) : Except Failure Json :=
  let known := (if c.sendsVariables then [("variables", .obj t.vars)] else [])
    ++ if c.sendsMetadata then [("metadata", t.metadata)] else []
  (Template.payload c.payload t.vars).map fun
    | .obj own => .obj (Dictionary.update known own)
    | _ => .obj known

/-- The call that a node makes. -/
def callRequest (t : Turn) (c : Call) : Except Failure CallRequest :=
  (t.payload c).map fun body => {
    url := Template.render c.url t.vars
    method := upper (if c.method = "" then "POST" else c.method)
    headers := headers c t.vars
    body
    timeout := match c.timeout with
      | some x => if x.isZero then usualTimeout else x
      | none => usualTimeout }

end Parley.Turn
