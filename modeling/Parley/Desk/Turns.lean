import Parley.Desk.Interface
import Parley.Flow.Check
import Parley.Turn.Advance

/-!
Turns from their beginning to their end.

A turn that settles is committed: its conversation is kept if nobody else wrote it meanwhile, its
history is written, and its timer is set or cancelled. A turn that breaks off leaves nothing but a
note of the failure.
-/

namespace Parley.Desk

/-- Writes entries; one that cannot be written is passed over. -/
def writeHistory : List Entry → Work Unit
  | [] => pure ()
  | e :: es => do
    let _ ← ask (.store (.append e))
    writeHistory es

/-- Cancels timers. -/
def cancelTimers : List String → Work Unit
  | [] => pure ()
  | id :: ids => do
    ask (.cancelTimer id)
    cancelTimers ids

/-- Keeps a new conversation in place of the contact's active ones. -/
def replaceActive (c : Conversation) : Work Conversation := do
  let ended ← store (.deactivate c.contact)
  cancelTimers ended
  store (.create c)

/-- Keeps the conversation of a turn. -/
def keep (t : Turn) : Work Conversation :=
  if t.isNew then replaceActive t.conversation else store (.save t.conversation t.version)

/-- The timer that a turn leaves behind: set where it waits for one, none once the conversation is
over. -/
def settleTimer (t : Turn) (kept : Conversation) : Work Unit :=
  if kept.isActive then match t.delay with
    | some seconds => ask (.schedule kept.id seconds {
        contact := kept.contact, conversation := kept.id, flow := kept.flowId
        node := kept.node })
    | none => pure ()
  else ask (.cancelTimer kept.id)

/-- The result of a turn that was kept. -/
def resultOf (s : Settings) (t : Turn) (kept : Conversation) : TurnResult where
  success := true
  text := t.text s.separator
  media := t.media
  awaitsInput := kept.awaitsInput
  conversation := some kept.id
  node := some kept.node
  finished := !kept.isActive

/-- Keeps what a turn has done, unless somebody else wrote the conversation meanwhile. -/
def commit (s : Settings) (t : Turn) : Work TurnResult := do
  let kept ← (keep t).attempt
  match kept with
  | .ok kept => do
    writeHistory t.history
    settleTimer t kept
    pure (resultOf s t kept)
  | .error (.conflict _ _ _) =>
    pure (.failed "Concurrent update" (some t.conversation.id) (some t.conversation.node))
  | .error f => Program.fail f

/-- The message that a failure is noted with. -/
def lastMessage (t : Turn) : Except Failure (Option String) :=
  match t.conversation.valueOf? "lastUserMessage" with
  | none | some .null => .ok none
  | some (.str s) => .ok (some s)
  | some _ => .error (.rejected [⟨[.key "input"], .notText⟩])

/-- Notes that a turn broke off. -/
def noteFailure (t : Turn) (first : Node) (resuming : Bool) (f : Failure) : Work TurnResult := do
  let id := t.conversation.node
  let input ← Program.ofExcept (if resuming then lastMessage t else .ok none)
  writeHistory [t.entry ((t.flow.node? id).getD first) .error input (some f.message)]
  pure (.failed ("Internal error at node " ++ id) (some t.conversation.id) (some id))

/-- Runs a turn from a node on: the conversation as the turn left it, and the result. -/
def runTurn (s : Settings) (t : Turn) (n : Node) (resuming : Bool) :
    Work (Conversation × TurnResult) := do
  let course ← outside (t.advance s.further n resuming)
  match course with
  | .settled t => do
    let result ← commit s t
    pure (t.conversation, result)
  | .broken t f => do
    let result ← noteFailure t n resuming f
    pure (t.conversation, result)

/-- The variables that a conversation starts with. -/
def firstVariables (now : Moment) (text name phone : Option String) : Fields :=
  [("triggerText", .str (text.getD "")), ("startedAt", .str now.text)]
    ++ (Turn.given name).toList.map (fun name => ("userName", .str name))
    ++ (Turn.given phone).toList.map fun phone => ("phoneNumber", .str phone)

/-- The first turn of a flow. -/
def firstTurn (s : Settings) (contact : Contact) (flowId : String) (f : Flow) (start : Node)
    (text name phone : Option String) : Work TurnResult := do
  let now ← ask .now
  let id ← ask .freshId
  let conversation : Conversation := {
    id, contact, flowId, node := start.id, vars := firstVariables now text name phone
    createdAt := now, updatedAt := now }
  let turn : Turn := {
    conversation, flow := f, version := conversation.version, isNew := true, start := now }
  let done ← runTurn s (turn.record start .entered text) start false
  pure done.2

/-- Starts a flow for a contact whose key is held. -/
def startHeld (s : Settings) (contact : Contact) (flowId : String)
    (text name phone : Option String) : Work TurnResult := do
  let found ← store (.flow contact.tenant flowId)
  match found.filter (·.enabled) with
  | none => pure (.failed ("Flow " ++ flowId ++ " not found or disabled"))
  | some f =>
    match f.start? with
    | some start =>
      if f.isUsable then firstTurn s contact flowId f start text name phone
      else pure (.failed f.refusal)
    | none => pure (.failed f.refusal)

/-- The turn of a conversation that got a message. -/
def answeredTurn (now : Moment) (c : Conversation) (f : Flow) (n : Node) (text : Option String) :
    Turn :=
  let known := (c.assign "lastUserMessage" (.ofText? text)).assign "lastMessageAt" (.str now.text)
  let turn : Turn := {
    conversation := { known with awaitsInput := false, entersOnResume := false }
    flow := f, version := c.version, pending := text, start := now }
  let told := turn.record n .userInput text
  if c.entersOnResume then told.record n .entered else told

/-- Gives a message to the active conversation of a contact whose key is held. -/
def resumeHeld (s : Settings) (contact : Contact) (text : Option String) : Work TurnResult := do
  let active ← store (.active contact)
  match active with
  | none => pure (.failed "No active flow")
  | some c =>
    if c.awaitsInput then do
      let f ← store (.flow contact.tenant c.flowId)
      match f.bind fun f => (f.node? c.node).map (f, ·) with
      | none => pure (.failed "Flow definition unavailable" (some c.id) (some c.node))
      | some (f, n) => do
        let now ← ask .now
        let done ← runTurn s (answeredTurn now c f n text) n (!c.entersOnResume)
        pure done.2
    else pure (.failed "Flow is not awaiting input" (some c.id) (some c.node))

/-- Whether a conversation still waits for the timer that went off. -/
def isAwaited (w : Wake) (c : Conversation) : Bool :=
  c.isActive && c.flowId == w.flow && c.node == w.node && !c.awaitsInput

/-- Goes on with a conversation whose timer went off; its contact's key is held. -/
def continueHeld (s : Settings) (w : Wake) : Work (Option (Conversation × TurnResult)) := do
  let found ← store (.conversation w.conversation)
  match found.filter (isAwaited w) with
  | none => pure none
  | some c => do
    let f ← store (.flow w.contact.tenant w.flow)
    match f.bind fun f => (f.node? w.node).map (f, ·) with
    | none => pure none
    | some (f, n) => do
      let now ← ask .now
      let turn : Turn := { conversation := c, flow := f, version := c.version, start := now }
      let done ← runTurn s (turn.record n .timeout) n true
      pure (some done)

end Parley.Desk
