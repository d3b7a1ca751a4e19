import Parley.Calendar.Moment
import Parley.Flow.Node
import Parley.Json.Value

/-!
Conversations: how far a contact has come in a flow.

A contact is known by a company, a session of a channel and a person. The three are joined by colons
into the key under which a contact's conversations are found. A conversation stands at a node of its
flow and keeps what was learnt so far; its version grows with every write. What happened at the
nodes is told by the entries of its history.
-/

namespace Parley

/-- Who takes part in a conversation. -/
@[ext]
structure Contact where
  tenant : String
  session : String
  person : String
  deriving DecidableEq, Repr

/-- The key of a contact. -/
def Contact.key (c : Contact) : String := c.tenant ++ ":" ++ c.session ++ ":" ++ c.person

theorem eq_of_append_colon {a b c d : List Char} (ha : ':' ∉ a) (hc : ':' ∉ c)
    (h : a ++ ':' :: b = c ++ ':' :: d) : a = c ∧ b = d := by
  induction a generalizing c with
  | nil =>
    cases c with
    | nil => exact ⟨rfl, (List.cons.inj h).2⟩
    | cons y c =>
      obtain ⟨rfl, -⟩ := List.cons.inj h
      exact absurd List.mem_cons_self hc
  | cons x a ih =>
    cases c with
    | nil =>
      obtain ⟨rfl, -⟩ := List.cons.inj h
      exact absurd List.mem_cons_self ha
    | cons y c =>
      obtain ⟨rfl, hrest⟩ := List.cons.inj h
      obtain ⟨rfl, rfl⟩ := ih (fun m => ha (List.mem_cons_of_mem _ m))
        (fun m => hc (List.mem_cons_of_mem _ m)) hrest
      exact ⟨rfl, rfl⟩

/-- Where companies and sessions have no colon, contacts are told apart by their keys. -/
theorem Contact.eq_of_key_eq {a b : Contact} (hat : ':' ∉ a.tenant.toList)
    (has : ':' ∉ a.session.toList) (hbt : ':' ∉ b.tenant.toList) (hbs : ':' ∉ b.session.toList)
    (h : a.key = b.key) : a = b := by
  have hl : a.tenant.toList ++ ':' :: (a.session.toList ++ ':' :: a.person.toList) =
      b.tenant.toList ++ ':' :: (b.session.toList ++ ':' :: b.person.toList) := by
    simpa [key] using congrArg String.toList h
  obtain ⟨ht, hrest⟩ := eq_of_append_colon hat hbt hl
  obtain ⟨hs, hp⟩ := eq_of_append_colon has hbs hrest
  obtain ⟨at_, as_, ap⟩ := a
  obtain ⟨bt, bs, bp⟩ := b
  simp_all [String.toList_inj]

/-- The state of a flow for one contact. -/
structure Conversation where
  id : String
  contact : Contact
  flowId : String
  /-- The node at which it stands. -/
  node : String
  isActive : Bool := true
  /-- Whether the next message goes to it. -/
  awaitsInput : Bool := false
  /-- Whether it goes on by entering its node instead of by leaving it. -/
  entersOnResume : Bool := false
  vars : Fields := []
  version : Int := 0
  createdAt : Moment
  updatedAt : Moment
  deriving DecidableEq, Repr

namespace Conversation

/-- The key of the contact. -/
def key (c : Conversation) : String := c.contact.key

/-- The value of a variable. -/
def valueOf? (c : Conversation) (name : String) : Option Json := Dictionary.find? c.vars name

/-- Gives a variable a value. -/
def assign (c : Conversation) (name : String) (value : Json) : Conversation :=
  { c with vars := Dictionary.put c.vars name value }

/-- The conversation after its end. -/
def finished (c : Conversation) : Conversation := { c with isActive := false, awaitsInput := false }

end Conversation

/-- What can happen at a node. -/
inductive Action where
  | entered
  | executed
  | userInput
  | conditionMet
  | timeout
  | error
  deriving DecidableEq, Repr

namespace Action

/-- The name of an action. -/
def name : Action → String
  | entered => "ENTERED"
  | executed => "EXECUTED"
  | userInput => "USER_INPUT"
  | conditionMet => "CONDITION_MET"
  | timeout => "TIMEOUT"
  | error => "ERROR"

/-- The action of a name. -/
def ofName? (s : String) : Option Action :=
  [entered, executed, userInput, conditionMet, timeout, error].find? (·.name == s)

end Action

/-- An entry of a conversation's history. -/
structure Entry where
  conversation : String
  node : String
  nodeKind : String
  action : Action
  input : Option String := none
  output : Option String := none
  label : Option String := none
  at_ : Moment
  deriving DecidableEq, Repr

end Parley
