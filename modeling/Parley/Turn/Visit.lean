import Parley.Answer.Format
import Parley.Calendar.Opening
import Parley.Condition.Evaluate
import Parley.Turn.Call

/-!
Visits to nodes.

A turn enters a node, or leaves one at which it waited. A visit says something and tells where to go
on (`Step`); it may take the message, and may keep what it learnt in variables.
-/

namespace Parley.Turn

open Template Text

/-- A visit: the turn afterwards and the step it takes. -/
abbrev Visit := Program Outside.Access (Turn × Step)

/-- Goes on to the next node, or ends the conversation where there is none. -/
def nextOrFinish (t : Turn) (n : Node) (text : Option String := none)
    (media : Option MediaReference := none) : Step :=
  match t.flow.successor? n with
  | some next => { onward := .next next.id, text, media }
  | none => { onward := .finish, text, media }

/-- After something was said: ends the conversation, waits for an answer or goes on. -/
def afterSaying (t : Turn) (n : Node) (awaitInput : Bool) (text : Option String)
    (media : Option MediaReference := none) : Step :=
  match t.flow.successor? n with
  | some next => { onward := if awaitInput then .wait else .next next.id, text, media }
  | none => { onward := .finish, text, media }

/-- What is asked where a question has no text. -/
def usualQuestion : String := "Por favor, responda:"

/-- What is asked where a choice has no text. -/
def usualChoice : String := "Escolha uma opção:"

/-- What is said when a conversation is handed over. -/
def usualHandover : String := "Aguarde, vou transferir você para um atendente."

/-- What is said when a ticket was opened. -/
def usualTicket : String := "Ticket criado com sucesso! Em breve entraremos em contato."

/-- What is said at the end. -/
def usualEnding : String := "Conversa finalizada."

/-- What is said when nobody is there. -/
def usualClosed : String :=
  "Desculpe, nosso atendimento humano está fora do horário de funcionamento no momento."

/-- What is said when it is not known whether anybody is there. -/
def hoursUnknown : String :=
  "Não foi possível verificar nosso horário de atendimento agora. "
    ++ "Por favor, envie uma nova mensagem em instantes."

/-- What is said in place of an attachment that is not there. -/
def attachmentMissing : AttachmentKind → String
  | .image => "Desculpe, não foi possível carregar a imagem."
  | .file => "Desculpe, não foi possível carregar o arquivo."

/-- The variable for an answer where a node does not name one. -/
def usualAnswerVariable : String := "webhook_response"

/-- The first of some texts that is given, otherwise another. -/
def firstGiven (texts : List (Option String)) (default : String) : String :=
  (texts.findSome? given).getD default

/-- The kind of an attachment of which only the address is known. -/
def plainKind : AttachmentKind → MediaKind
  | .image => .image
  | .file => .document

/-- The medium of an attachment, by its id or at its address. -/
def attachment (t : Turn) (kind : AttachmentKind) (a : Attachment) :
    Program Outside.Access (Option MediaReference) :=
  match given a.mediaId with
  | some id => do
    let found ← Outside.ask (.media id t.conversation.contact.tenant)
    match found with
    | .ok (some r) =>
      let named := r.fileName.truthy || (given a.fileName).isNone
      pure (some (if named then r else { r with fileName := .ofText? a.fileName }))
    | .ok none | .error _ => pure none
  | none => pure ((given a.mediaUrl).map fun url =>
      { url := .str (render url t.vars), kind := (plainKind kind).name
        fileName := .ofText? a.fileName })

/-- Shows an attachment, or says that it is not there. -/
def visitAttachment (t : Turn) (n : Node) (kind : AttachmentKind) (a : Attachment) : Visit := do
  let media ← t.attachment kind a
  match media with
  | some r => pure (t, t.afterSaying n a.awaitInput (some (renderOr a.caption t.vars)) (some r))
  | none => pure (t, t.afterSaying n a.awaitInput (some (attachmentMissing kind)))

/-- Takes the answer to a question, or asks it. -/
def visitQuestion (t : Turn) (n : Node) (q : Question) : Turn × Step :=
  let after := t.withoutInput
  let ask (text : String) : Turn × Step := (after, { onward := .wait, text := some text })
  let keep (value : String) : Turn × Step :=
    let kept := match given q.variable_ with
      | some name => after.assign name (.str value)
      | none => after
    (kept, kept.nextOrFinish n)
  match t.pending with
  | none => ask (render (firstGiven [q.text, n.label, q.placeholder] usualQuestion) t.vars)
  | some answer =>
    if isAllBlank answer then if q.required then ask Answer.requiredText else keep ""
    else match Answer.judge (.ofName q.format) answer with
      | .accepted value => keep value
      | .refused _ message => ask (firstGiven [some (renderOr q.refusal t.vars)] message)

/-- Where the first rule that holds leads to. -/
def ruleTarget? (f : Flow) (n : Node) (r : Rule) : Option Node :=
  (r.target.bind f.node?).or ((f.labelledEdge? n.id r.label).bind fun e => f.node? e.target)

/-- Where a node leads to when no rule does. -/
def defaultStep (f : Flow) (n : Node) : Step :=
  match (f.defaultEdge? n.id).bind fun e => f.node? e.target with
  | some target => { onward := .next target.id }
  | none => { onward := .finish }

/-- Chooses a way by the message, or asks for one. -/
def visitBranch (t : Turn) (n : Node) (b : Branch) : Except Failure (Turn × Step) :=
  let after := t.withoutInput
  match t.pending with
  | none =>
    let text := render (firstGiven [b.text] usualChoice) t.vars
    .ok (after, { onward := .wait, text := some text })
  | some answer => (Condition.select b.rules answer t.vars).map fun
    | none => (after, defaultStep t.flow n)
    | some (_, rule) =>
      let output := "Condição \"" ++ rule.caption.getD "None" ++ "\" atendida"
      let noted := after.record n .conditionMet (some answer) (some output) rule.caption
      match ruleTarget? t.flow n rule with
      | some target => (noted, { onward := .next target.id })
      | none => (noted, defaultStep t.flow n)

/-- Waits for a timer, or goes on at once where there is nothing to wait for. -/
def visitPause (t : Turn) (n : Node) (p : Pause) : Turn × Step :=
  let seconds := p.length
  if seconds.le .zero || (t.flow.successor? n).isNone then (t, t.nextOrFinish n)
  else ({ t with delay := some seconds }, { onward := .park })

/-- Calls another system; whatever becomes of it, the turn goes on. -/
def visitCall (t : Turn) (n : Node) (c : Call) : Visit := do
  let request ← Program.ofExcept (t.callRequest c)
  let answer ← Outside.ask (.call request)
  let kept := match answer with
    | .ok a =>
      if a.success && c.keepsAnswer then
        t.assign (firstGiven [c.answerVariable] usualAnswerVariable) a.body
      else t
    | .error _ => t
  pure (kept, kept.nextOrFinish n)

/-- Ends the conversation with a text. -/
def finishWith (t : Turn) (text : Option String) (usual : String) : Turn × Step :=
  (t, { onward := .finish, text := some (firstGiven [some (renderOr text t.vars)] usual) })

/-- What is said when nobody is there: when somebody will be, where that is known. -/
def closedText (text : String) (opening : Except Failure (Option Moment)) : String :=
  match opening with
  | .ok (some m) => text ++ "\n\nPróximo horário de atendimento: " ++ Calendar.openingText m
  | _ => text

/-- Hands the conversation over, or waits where nobody is there. -/
def visitHandover (t : Turn) (h : Handover) : Visit := do
  let after := t.withoutInput
  let tenant := t.conversation.contact.tenant
  let wait (text : String) : Visit := pure (after, { onward := .wait, text := some text })
  let handOver : Visit := pure (after.finishWith h.text usualHandover)
  if h.checksHours then
    let isOpen ← Outside.ask (.isOpen tenant)
    match isOpen with
    | .error _ => wait hoursUnknown
    | .ok true => handOver
    | .ok false =>
      let text := firstGiven [some (renderOr h.closedText t.vars)] usualClosed
      let opening ← Outside.ask (.nextOpening tenant)
      wait (closedText text opening)
  else handOver

/-- What happens at a node. -/
def visit (t : Turn) (n : Node) : Visit :=
  match n.body with
  | .start | .unknown _ => pure (t, t.nextOrFinish n)
  | .message m =>
    let text := render (firstGiven [m.text, n.label] "") t.vars
    pure (t, t.afterSaying n m.awaitInput (some text))
  | .attachment kind a => t.visitAttachment n kind a
  | .question q => pure (t.visitQuestion n q)
  | .branch b => Program.ofExcept (t.visitBranch n b)
  | .pause p => pure (t.visitPause n p)
  | .call c => t.visitCall n c
  | .handover h => t.visitHandover h
  | .ticket k => pure (t.finishWith k.text usualTicket)
  | .ending text => pure (t.finishWith text usualEnding)

/-- Enters a node. -/
def enter (t : Turn) (n : Node) : Visit := do
  Outside.demand (.enter n.kind)
  t.visit n

/-- Whether leaving a node at which a turn waited means visiting it again. -/
def isAskedAgain (n : Node) : Bool :=
  match n.body with
  | .question _ | .branch _ | .handover _ => true
  | _ => false

/-- Passes a node at which a turn waited, with the message still in hand. -/
def pass (t : Turn) (n : Node) : Step :=
  match t.flow.successor? n with
  | some next => { onward := .next next.id true }
  | none => { onward := .finish }

end Parley.Turn
