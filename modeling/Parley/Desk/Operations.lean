import Parley.Desk.Turns

/-!
What can be asked of a desk.

Each operation for a contact holds the contact's key from its first look at the store to its last
write.
-/

namespace Parley.Desk

/-- Starts a flow for a contact, in place of the active one. -/
def start (s : Settings) (contact : Contact) (flowId : String) (text name phone : Option String) :
    Work TurnResult := holding contact.key (startHeld s contact flowId text name phone)

/-- Gives a message to the active conversation of a contact. -/
def resume (s : Settings) (contact : Contact) (text : Option String) : Work TurnResult :=
  holding contact.key (resumeHeld s contact text)

/-- The first flow of a company that a message starts. -/
def flowFor (tenant : String) (text : Option String) : Work (Option String) :=
  match Turn.given text with
  | none => pure none
  | some message => do
    let flows ← store (.enabledFlows tenant)
    pure ((flows.find? (·.startsWith message)).map (·.id))

/-- Gives a message to the active conversation, where that waits for one. -/
def resumeAwaiting (s : Settings) (contact : Contact) (text : Option String) :
    Work (Option TurnResult) := do
  let active ← store (.active contact)
  if active.any (·.awaitsInput) && (Turn.given text).isSome then do
    let result ← resumeHeld s contact text
    pure (some result)
  else pure none

/-- Starts the flow that a message asks for, where there is one; otherwise, or where that fails,
what came of the resumed conversation counts. -/
def startAsked (s : Settings) (contact : Contact) (text name phone : Option String)
    (resumed : Option TurnResult) : Work TurnResult := do
  let otherwise := resumed.getD (.failed "No active flow and no trigger matched")
  let flow ← flowFor contact.tenant text
  match Turn.given flow with
  | none => pure otherwise
  | some id => do
    let started ← startHeld s contact id text name phone
    pure (if started.success || resumed.isNone then started else otherwise)

/-- Handles a message: the conversation that waits for it goes on; where that has nothing to say,
the message may start a flow. -/
def receive (s : Settings) (contact : Contact) (text name phone : Option String) :
    Work TurnResult :=
  holding contact.key do
    let resumed ← resumeAwaiting s contact text
    match resumed.filter fun r => r.success && r.hasResponse with
    | some r => pure r
    | none => startAsked s contact text name phone resumed

/-- Ends the active conversations of a contact; tells whether there were any. -/
def cancel (contact : Contact) : Work Bool :=
  holding contact.key do
    let ended ← store (.deactivate contact)
    cancelTimers ended
    pure (!ended.isEmpty)

/-- The active conversation of a contact. -/
def active (contact : Contact) : Work (Option Conversation) := store (.active contact)

/-- Goes on with a conversation whose timer went off, and delivers what comes of it. -/
def wake (s : Settings) (w : Wake) : Work (Option TurnResult) := do
  let done ← holding w.contact.key (continueHeld s w)
  match done with
  | none => pure none
  | some (c, result) => do
    if s.delivers then
      let answer ← ask (.deliver c result)
      Program.ofExcept answer
    pure (some result)

end Parley.Desk
