import Parley.Store.Interface

/-!
A store in memory.

Conversations are kept by id, in the order in which they were first kept. `Ledger.answer` gives the
answer to a question and the ledger afterwards; a question that fails leaves the ledger as it was.
-/

namespace Parley

/-- A store in memory. -/
structure Ledger where
  flows : Dictionary Flow := []
  conversations : Dictionary Conversation := []
  history : Dictionary (List Entry) := []

namespace Ledger

/-- All conversations in order. -/
def all (l : Ledger) : List Conversation := l.conversations.map (·.2)

/-- The conversation of an id. -/
def find? (l : Ledger) (id : String) : Option Conversation := Dictionary.find? l.conversations id

/-- Adds a flow, or puts it in the place of the one of its id. -/
def addFlow (l : Ledger) (f : Flow) : Ledger := { l with flows := Dictionary.put l.flows f.id f }

/-- Whether a flow may be used by a company. -/
def isFor (tenant : String) (f : Flow) : Bool := f.tenant == none || f.tenant == some tenant

/-- Whether a conversation is the active one of a key. -/
def holds (key : String) (c : Conversation) : Bool := c.isActive && c.key == key

/-- The active conversation of a key. -/
def active? (l : Ledger) (key : String) : Option Conversation := l.all.find? (holds key)

/-- Puts a conversation under its id. -/
def keep (l : Ledger) (c : Conversation) : Ledger :=
  { l with conversations := Dictionary.put l.conversations c.id c }

/-- Keeps a new conversation at version one, where its contact has no active one. -/
def create (l : Ledger) (c : Conversation) : Except Failure Conversation × Ledger :=
  match l.active? c.key with
  | some other => (.error (.conflict other.id c.version (some other.version)), l)
  | none =>
    let stored := { c with version := 1 }
    (.ok stored, l.keep stored)

/-- Writes a conversation over the expected version of it. -/
def save (l : Ledger) (now : Moment) (c : Conversation) (expected : Int) :
    Except Failure Conversation × Ledger :=
  let found := (l.find? c.id).map (·.version)
  if found = some expected then
    let stored := { c with version := expected + 1, updatedAt := now }
    (.ok stored, l.keep stored)
  else (.error (.conflict c.id expected found), l)

/-- A conversation of the key, ended; any other as it is. -/
def deactivated (now : Moment) (key : String) (c : Conversation) : Conversation :=
  if holds key c then { c.finished with version := c.version + 1, updatedAt := now } else c

/-- Ends all active conversations of a key. -/
def deactivate (l : Ledger) (now : Moment) (key : String) : List String × Ledger :=
  ((l.all.filter (holds key)).map (·.id),
    { l with conversations := l.conversations.map fun (id, c) => (id, deactivated now key c) })

/-- The history of a conversation. -/
def historyOf (l : Ledger) (id : String) : List Entry := (Dictionary.find? l.history id).getD []

/-- Adds to a history. -/
def append (l : Ledger) (e : Entry) : Ledger :=
  { l with history := Dictionary.put l.history e.conversation (l.historyOf e.conversation ++ [e]) }

/-- Answers a question at a moment. -/
def answer (now : Moment) : (q : Store.Ask) → Ledger → Except Failure q.Answer × Ledger
  | .flow tenant id, l => (.ok ((Dictionary.find? l.flows id).filter (isFor tenant)), l)
  | .enabledFlows tenant, l =>
    (.ok ((l.flows.map (·.2)).filter fun f => f.enabled && isFor tenant f), l)
  | .active contact, l => (.ok (l.active? contact.key), l)
  | .conversation id, l => (.ok (l.find? id), l)
  | .create c, l => l.create c
  | .save c expected, l => l.save now c expected
  | .deactivate contact, l =>
    let (ids, l) := l.deactivate now contact.key
    (.ok ids, l)
  | .append e, l => (.ok (), l.append e)
  | .history id, l => (.ok (l.historyOf id), l)

end Ledger

end Parley
