import Parley.Conversation.Basic
import Parley.Flow.Basic
import Parley.Program

/-!
What is kept: flows, conversations and their history.

A conversation is written only over the version it was read at, and a contact has at most one active
conversation. Every question may fail.
-/

namespace Parley.Store

/-- What a store can be asked. -/
inductive Ask where
  /-- The flow of an id, as far as the company may use it. -/
  | flow (tenant id : String)
  /-- The flows that a company can start. -/
  | enabledFlows (tenant : String)
  /-- The active conversation of a contact. -/
  | active (contact : Contact)
  | conversation (id : String)
  /-- Keeps a new conversation, at version one. -/
  | create (c : Conversation)
  /-- Writes a conversation over the expected version of it. -/
  | save (c : Conversation) (expected : Int)
  /-- Ends all active conversations of a contact and tells their ids. -/
  | deactivate (contact : Contact)
  /-- Adds to the history of a conversation. -/
  | append (e : Entry)
  | history (id : String)

/-- What a question to a store is answered with. -/
abbrev Ask.Answer : Ask → Type
  | .flow _ _ => Option Flow
  | .enabledFlows _ => List Flow
  | .active _ => Option Conversation
  | .conversation _ => Option Conversation
  | .create _ => Conversation
  | .save _ _ => Conversation
  | .deactivate _ => List String
  | .append _ => Unit
  | .history _ => List Entry

/-- The questions to a store with their answers or failures. -/
abbrev Access : Interface := ⟨Ask, fun q => Except Failure q.Answer⟩

end Parley.Store
