import Parley.Conversation.Reader
import Parley.Rehearsal.Clock
import Parley.Store.Backing

/-!
A store beside a clock that stands still and a count of the ids that were given out.
-/

namespace Parley.Rehearsal

/-- A store, a clock and the number of ids given out. -/
structure Shelf where
  backing : Store.Backing
  clock : Clock := { start := Clock.usualStart }
  ids : Nat := 0

namespace Shelf

/-- Work on a shelf that may fail; what was written stays written. -/
abbrev Work := ExceptT Failure (StateM Shelf)

/-- A value, or the failure there is instead. -/
def ofExcept {α : Type} (e : Except Failure α) : Work α := e

/-- Puts a question to the store. -/
def ask (q : Store.Ask) : Work q.Answer := do
  let s ← get
  let (reply, backing) := s.backing.answer s.clock.now q
  set { s with backing }
  ofExcept reply

/-- The present. -/
def now : Work Moment := return (← get).clock.now

/-- The name of the id that is given out as number `n`. -/
def idName (n : Nat) : String := "inst-" ++ Text.natText n

/-- Reads a conversation; a new id is given out where it has none, even if it cannot be read. -/
def readConversation (v : Json) : Work Conversation := do
  if Conversation.lacksId v then modify fun s => { s with ids := s.ids + 1 }
  let s ← get
  ofExcept (Conversation.read (idName s.ids) s.clock.now v).toExcept

/-- Adds a flow. -/
def addFlow (v : Json) : Work Unit := do
  let f ← ofExcept (Flow.read v).toExcept
  modify fun s => { s with backing := s.backing.addFlow f }

/-- Sets the clock forward. -/
def advance (seconds : Number.Binary64) : Work Unit :=
  modify fun s => { s with clock := s.clock.set (s.clock.after seconds) }

/-- A conversation with a variable written, every list among its variables made longer, and its node
changed. -/
def scribbled (c : Conversation) (name : String) (value : Json) : Conversation :=
  let c := c.assign name value
  { c with node := "mutated", vars := c.vars.map fun (k, v) => (k, match v with
    | .arr items => .arr (items ++ [.str "mutated"])
    | v => v) }

end Shelf

end Parley.Rehearsal
