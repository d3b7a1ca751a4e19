import Parley.Calendar.Moment
import Parley.Flow.Node
import Parley.Media.Reference

/-!
What a turn needs from outside while it visits nodes.

It calls other systems, looks up media and asks whether a company is open. Each of these may fail,
and so may the service that a kind of node stands for.
-/

namespace Parley

open Number

/-- A call to another system. -/
structure CallRequest where
  url : String
  method : String
  headers : Dictionary String
  body : Json
  /-- The longest wait for an answer, in seconds. -/
  timeout : Binary64
  deriving DecidableEq, Repr

/-- What became of a call. -/
structure CallAnswer where
  success : Bool
  status : Option Int := none
  body : Json := .null
  error : Option String := none
  deriving DecidableEq, Repr

namespace Outside

/-- What can be asked outside. -/
inductive Ask where
  /-- Whether nodes of a kind can be entered. -/
  | enter (kind : NodeKind)
  | call (request : CallRequest)
  | media (id tenant : String)
  | isOpen (tenant : String)
  | nextOpening (tenant : String)

/-- What a question is answered with. -/
abbrev Ask.Answer : Ask → Type
  | .enter _ => Unit
  | .call _ => CallAnswer
  | .media _ _ => Option MediaReference
  | .isOpen _ => Bool
  | .nextOpening _ => Option Moment

/-- The questions to the outside with their answers or failures. -/
abbrev Access : Interface := ⟨Ask, fun q => Except Failure q.Answer⟩

/-- Asks a question and takes the failure as an answer. -/
def ask (q : Ask) : Program Access (Except Failure q.Answer) := @Program.call Access q

/-- Asks a question; its failure is that of the program. -/
def demand (q : Ask) : Program Access q.Answer := do
  let answer ← ask q
  Program.ofExcept answer

end Outside

end Parley
