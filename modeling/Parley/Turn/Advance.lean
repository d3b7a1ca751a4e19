import Parley.Turn.Visit

/-!
How a turn goes from node to node.

It visits one node after the other until it has to wait or the conversation is over, but no more
than a given number of them: then it is cut short, and the next turn enters the node that this one
did not.
-/

namespace Parley.Turn

/-- A turn that has come to its end, or broke off with a failure where it stood. -/
inductive Course where
  | settled (t : Turn)
  | broken (t : Turn) (failure : Failure)

/-- What a visit has come to: the turn with its step taken, and the node to go on with. -/
inductive Onto where
  | ended (t : Turn)
  | node (t : Turn) (n : Node)

/-- Takes a step. -/
def take (t : Turn) (step : Step) : Onto :=
  let t := if step.onward.keepsInput then t else t.withoutInput
  let t := t.say step.text step.media
  match step.onward with
  | .wait => .ended t.awaiting
  | .park => .ended t.parked
  | .finish => .ended t.ended
  | .next id _ => match t.flow.node? id with
    | some n => .node t n
    | none => .ended t.ended

/-- Visits a node: enters it, or leaves it where the turn waited there. -/
def step (t : Turn) (n : Node) (resuming : Bool) : Program Outside.Access Onto := do
  let t := t.standAt n.id
  if resuming && !isAskedAgain n then pure (t.take (t.pass n))
  else
    let (t, step) ← if resuming then t.visit n else t.enter n
    pure ((t.record n .executed none step.text).take step)

/-- Visits nodes one after the other, at most `left + 1` of them. -/
def advance : (left : Nat) → Turn → Node → (resuming : Bool) → Program Outside.Access Course
  | left, t, n, resuming => do
    let result ← (t.step n resuming).attempt
    match result with
    | .error failure => pure (.broken (t.standAt n.id) failure)
    | .ok (.ended t) => pure (.settled t)
    | .ok (.node t next) =>
      match left with
      | 0 => pure (.settled (t.cut next.id))
      | left + 1 => advance left (t.record next .entered) next false

end Parley.Turn
