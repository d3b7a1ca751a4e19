import Parley.Flow.Problem

/-!
Checking a flow before it is used.

The problems come in a fixed order: starts, edges, nodes, nodes that are out of reach, dead ends,
loops that never wait. `Flow.unseen` searches from the start and carries the nodes not met yet, so
that it ends and its result is what is out of reach. `Flow.visit` walks in depth through the nodes
that never wait and reports those it meets again on the way it came.
-/

namespace Parley.Flow

open Text

/-- The nodes that a conversation may start with. -/
def starts (f : Flow) : List Node := f.nodes.filter (·.kind == .start)

/-- There is exactly one start. -/
def startProblems (f : Flow) : List Problem :=
  match f.starts with
  | [] => [.noStart]
  | [_] => []
  | _ :: rest => rest.map fun n => .severalStarts (rest.length + 1) n.id

/-- Ids of edges are distinct and edges join nodes; `seen` holds the ids of the edges before. -/
def edgeProblems (f : Flow) : (seen : List String) → List Edge → List Problem
  | _, [] => []
  | seen, e :: rest =>
    (if e.id != "" && seen.contains e.id then [.duplicateEdge e.id] else [])
      ++ (if f.hasNode e.source then [] else [.missingSource e.id e.source])
      ++ (if f.hasNode e.target then [] else [.missingTarget e.id e.target e.source])
      ++ edgeProblems f (e.id :: seen) rest

/-- A node has at most one edge without a label. -/
def defaultProblems (f : Flow) : List Problem :=
  f.nodes.filterMap fun n =>
    let count := ((f.outgoing n.id).filter (·.label == none)).length
    if 1 < count then some (.severalDefaults count n.id) else none

/-- A rule leads to a node, or to a labelled edge of its own node. -/
def ruleProblems (f : Flow) (n : Node) (r : Rule) : List Problem :=
  match r.target with
  | none | some "" =>
    if (f.labelledEdge? n.id r.label).isNone then [.unresolvedRule r.caption n.id] else []
  | some target => if f.hasNode target then [] else [.missingRuleTarget r.caption target n.id]

/-- What is amiss with a node by itself. -/
def nodeProblems (f : Flow) (n : Node) : List Problem :=
  match n.body with
  | .unknown kind => [.unknownKind kind n.id]
  | .question q => if q.variable_.getD "" = "" then [.noVariable n.id] else []
  | .call c => if isAllBlank c.url then [.noAddress n.id] else []
  | .branch b => b.rules.flatMap (f.ruleProblems n)
  | _ => []

/-- The nodes but those of an id. -/
def without (id : String) (nodes : List Node) : List Node := nodes.filter (·.id != id)

/-- Taking out a node that is there leaves fewer. -/
theorem length_without_lt {id : String} {nodes : List Node} {n : Node}
    (h : nodes.find? (·.id == id) = some n) : (without id nodes).length < nodes.length := by
  apply Nat.lt_of_le_of_ne (List.length_filter_le _ _)
  intro heq
  have := List.length_filter_eq_length_iff.1 heq _ (List.mem_of_find?_eq_some h)
  have hp := List.find?_some h
  simp_all

/-- The nodes that are not met on the way from the ids in the queue; `left` holds the nodes not met
yet. An empty id is met without going on from it. -/
def unseen (f : Flow) (left : List Node) (queue : List String) : List Node :=
  match queue with
  | [] => left
  | id :: queue =>
    match _h : left.find? (·.id == id) with
    | none => unseen f left queue
    | some n =>
      let onward := if id = "" then [] else (f.successorIds n).filter (· != "")
      unseen f (without id left) (queue ++ onward)
termination_by (left.length, queue.length)
decreasing_by
  · apply Prod.Lex.right
    simp
  · exact Prod.Lex.left _ _ (length_without_lt _h)

/-- The nodes that no way from the start leads to, by id. -/
def unreachable (f : Flow) : List String :=
  match f.start? with
  | none => []
  | some start => ((f.unseen f.nodes [start.id]).map (·.id)).mergeSort fun a b => decide (a ≤ b)

/-- The nodes that end a conversation without saying so. -/
def deadEnds (f : Flow) : List Problem :=
  f.nodes.filterMap fun n =>
    if n.kind.isTerminal || !(f.successorIds n).isEmpty then none else some (.deadEnd n.id n.kind)

/-- Whether a turn can stop at a node. -/
def waits (n : Node) : Bool :=
  match n.body with
  | .message m => m.awaitInput
  | .attachment _ a => a.awaitInput
  | .start | .call _ | .unknown _ => false
  | _ => true

/-- What a walk through the nodes that never wait has found. -/
structure Walk where
  /-- The nodes that are done with. -/
  done : List String := []
  /-- The nodes that close a loop, last one first. -/
  loops : List String := []

/-- Visits a node and all that follow it; `way` holds the nodes that led here. -/
def visit (f : Flow) : (fuel : Nat) → (way : List String) → Walk → String → Walk
  | 0, _, w, _ => w
  | fuel + 1, way, w, id =>
    match f.node? id with
    | none => w
    | some n =>
      if waits n || w.done.contains id then w
      else if way.contains id then
        if w.loops.contains id then w else { w with loops := id :: w.loops }
      else
        let w := (f.successorIds n).foldl (visit f fuel (id :: way)) w
        { w with done := id :: w.done }

/-- The nodes that close a loop of nodes that never wait, in the order in which they are met. -/
def idleLoops (f : Flow) : List String :=
  (f.nodes.foldl (fun w n => f.visit (f.nodes.length + 1) [] w n.id) {}).loops.reverse

/-- Everything that is amiss with a flow. -/
def problems (f : Flow) : List Problem :=
  f.startProblems ++ f.edgeProblems [] f.edges ++ f.defaultProblems
    ++ f.nodes.flatMap f.nodeProblems ++ f.unreachable.map .unreachable ++ f.deadEnds
    ++ f.idleLoops.map .idleLoop

/-- The problems that make a flow unusable. -/
def errors (f : Flow) : List Problem := f.problems.filter (·.severity == .error)

/-- Whether a flow can be used. -/
def isUsable (f : Flow) : Bool := f.errors.isEmpty

/-- Why a flow cannot be used, in words. -/
def refusal (f : Flow) : String := refusalText (some f.id) (f.errors.map (·.finding))

end Parley.Flow
