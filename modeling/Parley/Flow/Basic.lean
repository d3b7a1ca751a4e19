import Parley.Flow.Node
import Parley.Text.Case
import Parley.Text.Blank

/-!
Flows: what an author draws.

A flow has nodes, edges between them and the words that start it. No two nodes share an id. An edge
without a label is a node's ordinary way on; the labelled ones are taken by rules.
-/

namespace Parley

open Text

/-- A way from one node to another. -/
structure Edge where
  id : String := ""
  source : String
  target : String
  label : Option String := none
  deriving DecidableEq, Repr

/-- The flow of a conversation. -/
structure Flow where
  id : String
  /-- Whose flow it is; without an owner it is everybody's. -/
  tenant : Option String := none
  name : Option String := none
  enabled : Bool := true
  /-- The words that start the flow. -/
  triggers : List String := []
  nodes : List Node := []
  edges : List Edge := []
  nodup_ids : (nodes.map (·.id)).Nodup := by decide

namespace Flow

/-- The node of an id, where the id is not empty. -/
def node? (f : Flow) (id : String) : Option Node :=
  if id = "" then none else f.nodes.find? (·.id == id)

/-- Whether an id is that of a node. -/
def hasNode (f : Flow) (id : String) : Bool := f.nodes.any (·.id == id)

/-- The first node that a conversation may start with. -/
def start? (f : Flow) : Option Node := f.nodes.find? (·.kind == .start)

/-- The edges that leave a node, in the author's order. -/
def outgoing (f : Flow) (id : String) : List Edge := f.edges.filter (·.source == id)

/-- The first edge without a label that leaves a node. -/
def defaultEdge? (f : Flow) (id : String) : Option Edge :=
  (f.outgoing id).find? (·.label == none)

/-- The first edge that leaves a node under a label, whatever its case. -/
def labelledEdge? (f : Flow) (id : String) (label : Option String) : Option Edge :=
  match label with
  | none | some "" => none
  | some label =>
    let wanted := lower (strip label)
    (f.outgoing id).find? fun e => e.label.any fun l => lower l == wanted

/-- The edge by which a node goes on: the one without a label, or the first of all where the node
does not branch. -/
def onwardEdge? (f : Flow) (n : Node) : Option Edge :=
  match f.defaultEdge? n.id with
  | some e => some e
  | none => if n.kind = .condition then none else (f.outgoing n.id).head?

/-- The node by which a node goes on. -/
def successor? (f : Flow) (n : Node) : Option Node :=
  (f.onwardEdge? n).bind fun e => f.node? e.target

/-- The ids that may come after a node: the targets of its edges, then those of its rules. -/
def successorIds (f : Flow) (n : Node) : List String :=
  (f.outgoing n.id).map (·.target) ++ (n.rules.filterMap (·.target)).filter (· != "")

/-- Whether one of the words that start the flow is a word of the message. -/
def startsWith (f : Flow) (message : String) : Bool :=
  let found := words (lower message)
  f.triggers.any found.contains

theorem node?_id {f : Flow} {id : String} {n : Node} (h : f.node? id = some n) : n.id = id := by
  unfold node? at h
  split at h
  · simp at h
  · simpa using List.find?_some h

theorem node?_mem {f : Flow} {id : String} {n : Node} (h : f.node? id = some n) : n ∈ f.nodes := by
  unfold node? at h
  split at h
  · simp at h
  · exact List.mem_of_find?_eq_some h

end Flow

end Parley
