import Parley.Store.Interface
import Parley.Turn.Outside
import Parley.Turn.Result

/-!
What a desk needs from its surroundings.

A desk leads the conversations of many contacts. It asks a store and the outside, reads the clock,
has ids made up, holds keys so that a contact's turns do not overlap, sets timers for turns that
wait for one, and delivers what such a turn says later.
-/

namespace Parley

open Number

/-- The continuation that a timer stands for: which conversation waits at which node. -/
structure Wake where
  contact : Contact
  conversation : String
  flow : String
  node : String
  deriving DecidableEq, Repr

namespace Desk

/-- What a desk can ask. -/
inductive Ask where
  | outside (q : Outside.Ask)
  | store (q : Store.Ask)
  | now
  | freshId
  /-- Waits until nobody else holds a key. -/
  | acquire (key : String)
  | release (key : String)
  /-- Sets the timer of a conversation, in place of one that it has. -/
  | schedule (id : String) (seconds : Binary64) (wake : Wake)
  | cancelTimer (id : String)
  /-- Delivers what a turn that waited for a timer has come to. -/
  | deliver (c : Conversation) (r : TurnResult)

/-- What a question is answered with. -/
abbrev Ask.Answer : Ask → Type
  | .outside q => Except Failure q.Answer
  | .store q => Except Failure q.Answer
  | .now => Moment
  | .freshId => String
  | .acquire _ => Unit
  | .release _ => Unit
  | .schedule _ _ _ => Unit
  | .cancelTimer _ => Unit
  | .deliver _ _ => Except Failure Unit

/-- The questions of a desk with their answers. -/
abbrev Access : Interface := ⟨Ask, Ask.Answer⟩

/-- The work of a desk. -/
abbrev Work := Program Access

/-- Asks a question. -/
def ask (q : Ask) : Work q.Answer := @Program.call Access q

/-- Asks the store; its failure is that of the work. -/
def store (q : Store.Ask) : Work q.Answer := do
  let answer ← ask (.store q)
  Program.ofExcept answer

/-- What has to be asked outside. -/
def outside {α : Type} (p : Program Outside.Access α) : Work α :=
  p.via fun q => ask (.outside q)

/-- Work done while a key is held; the key is given back whatever comes of it. -/
def holding {α : Type} (key : String) (work : Work α) : Work α := do
  ask (.acquire key)
  let result ← work.attempt
  ask (.release key)
  Program.ofExcept result

/-- How many nodes a turn visits at most, where nothing else is said. -/
def usualSteps : Nat := 25

/-- How many nodes a turn visits at most behind the first; a bound of nought stands for the usual
one. -/
def furtherOf (bound : Int) : Nat :=
  if bound = 0 then usualSteps - 1 else bound.toNat - 1

/-- How a desk works. -/
structure Settings where
  /-- The largest number of nodes that a turn visits, less one. -/
  further : Nat := usualSteps - 1
  /-- What stands between the texts of a turn. -/
  separator : String := "\n\n"
  /-- Whether anybody wants what a turn says that waited for a timer. -/
  delivers : Bool := true
  deriving DecidableEq, Repr

end Desk

end Parley
