import Parley.Flow.Basic
import Parley.Json.Listing
import Parley.Json.Reader
import Parley.Schema.Scalar

/-!
Reading flows from what authors wrote.

Names of parts may be written in two ways, with underscores or with capitals inside; where both are
there the one with underscores counts. The parts of a node stand under `config` or `data`. Nodes,
edges and the words that start a flow may be given as text that holds JSON. Nodes come as a list, or
as an object whose names are the ids of nodes that have none.
-/

namespace Parley

open Number Schema Text

namespace Node

/-- A text that may be left out. -/
def optionalText (fields : Fields) (names : List String) : Reading (Option String) :=
  optional fields names none readNullableText

/-- A truth value that may be left out. -/
def optionalTruth (fields : Fields) (names : List String) (default : Bool) : Reading Bool :=
  optional fields names default readTruth

/-- A unit of time by its name. -/
def readUnit : Json → Reading TimeUnit
  | .str s => match TimeUnit.ofName? s with
    | some u => .ok u
    | none => .issue .notAmong
  | _ => .issue .notAmong

/-- Texts under names. -/
def readHeaders (v : Json) : Reading (Dictionary String) :=
  (readObject v).andThen fun members =>
    .all (members.map fun (k, v) => ((readText v).under (.key k)).map (k, ·))

/-- What is sent with a call: null, a text, an object or an array. -/
def readPayload : Json → Reading Json
  | .null => .ok .null
  | .str s => .ok (.str s)
  | .arr items => .ok (.arr items)
  | .obj members => .ok (.obj members)
  | _ => .rejected [⟨[.key "str"], .notText⟩, ⟨[.key "dict[str,any]"], .notObject⟩,
      ⟨[.key "list[any]"], .notList⟩]

/-- The names that the parts of a body may stand under. -/
def partNames : NodeKind → List String
  | .start | .other _ => ["label"]
  | .message => ["label", "message", "await_input", "awaitInput"]
  | .image | .file => ["label", "message", "await_input", "awaitInput", "media_id", "mediaId",
      "media_url", "mediaUrl", "file_name", "fileName", "mime_type", "mimeType"]
  | .input => ["label", "message", "variable_name", "variableName", "validation", "placeholder",
      "required", "error_message", "errorMessage"]
  | .condition => ["label", "message", "conditions"]
  | .delay => ["label", "delay", "delay_unit", "delayUnit"]
  | .webhook => ["label", "webhook_url", "webhookUrl", "webhook_method", "webhookMethod", "headers",
      "use_authentication", "useAuthentication", "auth_type", "authType", "auth_token", "authToken",
      "api_key_header", "apiKeyHeader", "api_key_value", "apiKeyValue", "basic_username",
      "basicUsername", "basic_password", "basicPassword", "include_flow_variables",
      "includeFlowVariables", "include_metadata", "includeMetadata", "custom_payload",
      "customPayload", "wait_for_response", "waitForResponse", "response_variable",
      "responseVariable", "timeout_seconds", "timeoutSeconds"]
  | .transfer => ["label", "transfer_message", "transferMessage", "out_of_hours_message",
      "outOfHoursMessage", "check_business_hours", "checkBusinessHours", "department"]
  | .ticket => ["label", "message", "ticket_category", "ticketCategory", "ticket_priority",
      "ticketPriority"]
  | .ending => ["label", "message"]

/-- Reads a message. -/
def readMessage (fs : Fields) : Reading Message :=
  Message.mk <$> optionalText fs ["message"] <*> optionalTruth fs ["await_input", "awaitInput"] true

/-- Reads an attachment. -/
def readAttachment (fs : Fields) : Reading Attachment :=
  Attachment.mk <$> optionalText fs ["message"]
    <*> optionalTruth fs ["await_input", "awaitInput"] true
    <*> optionalText fs ["media_id", "mediaId"] <*> optionalText fs ["media_url", "mediaUrl"]
    <*> optionalText fs ["file_name", "fileName"] <*> optionalText fs ["mime_type", "mimeType"]

/-- Reads a question. -/
def readQuestion (fs : Fields) : Reading Question :=
  Question.mk <$> optionalText fs ["message"]
    <*> optionalText fs ["variable_name", "variableName"]
    <*> optional fs ["validation"] "text" readText <*> optionalText fs ["placeholder"]
    <*> optionalTruth fs ["required"] true <*> optionalText fs ["error_message", "errorMessage"]

/-- Reads a branch. -/
def readBranch (fs : Fields) : Reading Branch :=
  Branch.mk <$> optionalText fs ["message"] <*> optional fs ["conditions"] [] (readList Rule.read)

/-- Reads a pause. -/
def readPause (fs : Fields) : Reading Pause :=
  Pause.mk <$> optional fs ["delay"] none (fun v => (readNumber v).map some)
    <*> optional fs ["delay_unit", "delayUnit"] .seconds readUnit

/-- Reads how a call proves who makes it. -/
def readCredentials (fs : Fields) : Reading Credentials :=
  Credentials.mk <$> optionalTruth fs ["use_authentication", "useAuthentication"] false
    <*> optionalText fs ["auth_type", "authType"] <*> optionalText fs ["auth_token", "authToken"]
    <*> optionalText fs ["api_key_header", "apiKeyHeader"]
    <*> optionalText fs ["api_key_value", "apiKeyValue"]
    <*> optionalText fs ["basic_username", "basicUsername"]
    <*> optionalText fs ["basic_password", "basicPassword"]

/-- Reads a call. -/
def readCall (fs : Fields) : Reading Call :=
  Call.mk <$> optional fs ["webhook_url", "webhookUrl"] "" readText
    <*> optional fs ["webhook_method", "webhookMethod"] "POST" readText
    <*> optional fs ["headers"] [] readHeaders
    <*> readCredentials fs
    <*> optionalTruth fs ["include_flow_variables", "includeFlowVariables"] false
    <*> optionalTruth fs ["include_metadata", "includeMetadata"] false
    <*> optional fs ["custom_payload", "customPayload"] .null readPayload
    <*> optionalTruth fs ["wait_for_response", "waitForResponse"] false
    <*> optionalText fs ["response_variable", "responseVariable"]
    <*> optional fs ["timeout_seconds", "timeoutSeconds"] none (readNullable readNumber)

/-- Reads a handover. -/
def readHandover (fs : Fields) : Reading Handover :=
  Handover.mk <$> optionalText fs ["transfer_message", "transferMessage"]
    <*> optionalText fs ["out_of_hours_message", "outOfHoursMessage"]
    <*> optionalTruth fs ["check_business_hours", "checkBusinessHours"] true
    <*> optionalText fs ["department"]

/-- Reads a ticket. -/
def readTicket (fs : Fields) : Reading Ticket :=
  Ticket.mk <$> optionalText fs ["message"]
    <*> optionalText fs ["ticket_category", "ticketCategory"]
    <*> optionalText fs ["ticket_priority", "ticketPriority"]

/-- Reads the parts of a body. -/
def readBody (kind : NodeKind) (fs : Fields) : Reading Body :=
  match kind with
  | .start => .ok .start
  | .message => .message <$> readMessage fs
  | .image => .attachment .image <$> readAttachment fs
  | .file => .attachment .file <$> readAttachment fs
  | .input => .question <$> readQuestion fs
  | .condition => .branch <$> readBranch fs
  | .delay => .pause <$> readPause fs
  | .webhook => .call <$> readCall fs
  | .transfer => .handover <$> readHandover fs
  | .ticket => .ticket <$> readTicket fs
  | .ending => .ending <$> optionalText fs ["message"]
  | .other name => .ok (.unknown name)

/-- Reads a label, a body and the rest from the parts of a node. -/
def readParts (kind : NodeKind) : Json → Reading (Option String × Body × Fields)
  | .obj fs =>
    (fun label body => (label, body, fs.filter fun p => !(partNames kind).contains p.1))
      <$> optionalText fs ["label"] <*> readBody kind fs
  | _ => .issue .notRecord

/-- The kind of node that an author named; without a name it is the kind `unknown`. -/
def kindOf (fields : Fields) : NodeKind :=
  let written := ((Dictionary.find? fields "type").getD .null).orElse (.str "")
  let name := lower (strip written.text)
  match NodeKind.ofName name with
  | .other "" => .other "unknown"
  | kind => kind

/-- Reads a node from the members of an object. -/
def readFields (fields : Fields) : Reading Node :=
  let kind := kindOf fields
  (fun id (parts : Option String × Body × Fields) =>
      { id, body := parts.2.1, label := parts.1, extras := parts.2.2 })
    <$> required fields ["id"] readText
    <*> ((pick? fields ["config", "data"]).elim (readParts kind (.obj []))
      fun (name, v) => (readParts kind v).under (.key name))

/-- Reads a node; only an object can be one. -/
def read : Json → Reading Node
  | .obj fields => readFields fields
  | v => .failed (.nodeNotObject v.kindName)

end Node

namespace Edge

/-- The label of an edge: any value as text, without blanks around it; an empty one is none. -/
def labelOf : Json → Option String
  | .null => none
  | v =>
    let s := strip v.text
    if s = "" then none else some s

/-- Reads an edge. -/
def read : Json → Reading Edge
  | .obj fs =>
    Edge.mk <$> optional fs ["id"] "" readText
      <*> required fs ["source_node_id", "sourceNodeId", "source"] readText
      <*> required fs ["target_node_id", "targetNodeId", "target"] readText
      <*> optional fs ["label"] none fun v => .ok (labelOf v)
  | _ => .issue .notRecord

end Edge

namespace Flow

/-- A value given as text that holds JSON, or as it is. Blank text holds nothing. -/
def unpack : Json → Reading Json
  | .str s =>
    if isAllBlank s then .ok (.arr [])
    else match Json.read s with
      | .ok v => .ok v
      | .error (.fault _) => .issue (.unfit none)
      | .error u => .issue (.unfit (some u.message))
  | v => .ok v

/-- The values that a value holds: the items of an array, the names in an object, the characters of
a text. -/
def itemsOf : Json → Reading (List Json)
  | .arr items => .ok items
  | .obj members => .ok (members.map fun p => .str p.1)
  | .str s => .ok (s.toList.map fun c => .str (String.singleton c))
  | v => .failed (.notIterable v.kindName)

/-- The words that start a flow: the texts among the items, without blanks around them and in small
letters, each once. -/
def triggersOf (items : List Json) : List String :=
  items.foldl (fun found v => match v with
    | .str s =>
      let word := lower (strip s)
      if word = "" || found.contains word then found else found ++ [word]
    | _ => found) []

/-- Reads the words that start a flow. -/
def readTriggers (v : Json) : Reading (List String) :=
  (unpack v).andThen fun v =>
    match v.orElse (.arr []) with
    | .str s => .ok (triggersOf [.str s])
    | v => (itemsOf v).map triggersOf

/-- The nodes of an object, each with its name as id unless it has one. -/
def namedNodes (members : Fields) : List Json :=
  members.map fun (name, v) => match v with
    | .obj fs => .obj (if Dictionary.has fs "id" then fs else fs ++ [("id", .str name)])
    | v => v

/-- Reads nodes one after the other; `seen` holds the ids of those before. The first node that
cannot be read ends the reading, and so does the second one with the same id. -/
def readNodes : (seen : List String) → List Json → Reading (List Node)
  | _, [] => .ok []
  | seen, v :: vs =>
    match Node.read v with
    | .failed failure => .issue (.unfit (some failure.message))
    | .rejected issues => .rejected issues
    | .ok n =>
      if seen.contains n.id then .issue (.unfit (some ("Duplicate node id: " ++ n.id)))
      else (readNodes (n.id :: seen) vs).map (n :: ·)

/-- Nodes with ids of their own. -/
abbrev DistinctNodes := { nodes : List Node // (nodes.map (·.id)).Nodup }

/-- Reads the nodes of a flow. -/
def readNodeMap (v : Json) : Reading DistinctNodes :=
  (unpack v).andThen fun v =>
    let items : Reading (List Json) := match v.orElse (.arr []) with
      | .obj members => .ok (namedNodes members)
      | v => itemsOf v
    items.andThen fun items =>
      (readNodes [] items).andThen fun nodes =>
        if h : (nodes.map (·.id)).Nodup then .ok ⟨nodes, h⟩ else .issue (.unfit none)

/-- Reads the edges of a flow. -/
def readEdges (v : Json) : Reading (List Edge) :=
  (unpack v).andThen fun v => readList Edge.read (v.orElse (.arr []))

/-- Reads a flow. -/
def read : Json → Reading Flow
  | .obj fs =>
    (fun id tenant name enabled triggers (nodes : DistinctNodes) edges =>
        { id, tenant, name, enabled, triggers, nodes := nodes.1, edges, nodup_ids := nodes.2 })
      <$> required fs ["id"] readText
      <*> optional fs ["tenant_id", "tenantId", "company_id", "companyId"] none readNullableText
      <*> optional fs ["name"] none readNullableText
      <*> optional fs ["enabled", "is_active", "isActive"] true readTruth
      <*> optional fs ["trigger_keywords", "triggerKeywords", "triggers"] [] readTriggers
      <*> optional fs ["nodes"] ⟨[], List.nodup_nil⟩ readNodeMap
      <*> optional fs ["edges"] [] readEdges
  | _ => .issue .notRecord

end Flow

end Parley
