import Mathlib.Data.List.Nodup
import Mathlib.Logic.Relation
import Parley.Turn.Visit

/-!
# Ways through a flow

`Flow.Leads` joins a node to every node that may come right after it, by an edge or by a rule;
`Flow.Reaches` holds of the ids that such steps lead to from the start. Wherever a visit sends a
turn is one step away from the node visited (`successorIds_of_successor?`, `ruleTarget?_mem`,
`defaultStep_onward`).

`Flow.CanAwait` and `Flow.CanPark` hold of the nodes at which a turn can stop: to wait for an
answer, or for a timer.
-/

namespace Parley.Flow

open Number

/-- Some node of an id may be followed by a node of another. -/
def Leads (f : Flow) (a b : String) : Prop := ∃ n ∈ f.nodes, n.id = a ∧ b ∈ f.successorIds n

/-- Steps from node to node lead from the start to an id. -/
def Reaches (f : Flow) (id : String) : Prop :=
  ∃ start, f.start? = some start ∧ Relation.ReflTransGen f.Leads start.id id

/-- A turn can stop at a node to wait for an answer. -/
def CanAwait (f : Flow) (n : Node) : Prop :=
  match n.body with
  | .message m => m.awaitInput = true ∧ (f.successor? n).isSome
  | .attachment _ a => a.awaitInput = true ∧ (f.successor? n).isSome
  | .question _ | .branch _ => True
  | .handover h => h.checksHours = true
  | _ => False

/-- A turn can stop at a node to wait for a timer: for longer than no time, or for an undefined
time. -/
def CanPark (f : Flow) (n : Node) : Prop :=
  (∃ p, n.body = .pause p ∧ (Binary64.zero.lt p.length = true ∨ p.length = .nan)) ∧
    (f.successor? n).isSome

variable {f : Flow} {n m : Node}

theorem Reaches.tail {a b : String} (h : f.Reaches a) (hab : f.Leads a b) : f.Reaches b := by
  obtain ⟨start, hs, hr⟩ := h
  exact ⟨start, hs, hr.tail hab⟩

theorem reaches_start (h : f.start? = some n) : f.Reaches n.id := ⟨n, h, .refl⟩

/-- Ids are distinct, so that a node is the node of its id. -/
theorem find?_id_of_mem (h : n ∈ f.nodes) : f.nodes.find? (·.id == n.id) = some n := by
  cases hm : f.nodes.find? (·.id == n.id) with
  | none => simpa using List.find?_eq_none.1 hm n h
  | some m =>
    have hmid : m.id = n.id := by simpa using List.find?_some hm
    exact congrArg some (List.inj_on_of_nodup_map f.nodup_ids (List.mem_of_find?_eq_some hm) h hmid)

theorem node?_of_mem (h : n ∈ f.nodes) (hid : n.id ≠ "") : f.node? n.id = some n := by
  unfold node?
  rw [if_neg hid]
  exact find?_id_of_mem h

theorem target_mem_successorIds {e : Edge} (h : e ∈ f.outgoing n.id) :
    e.target ∈ f.successorIds n :=
  List.mem_append_left _ (List.mem_map_of_mem h)

/-- The node by which a node goes on is one step away. -/
theorem successorIds_of_successor? (h : f.successor? n = some m) : m.id ∈ f.successorIds n := by
  unfold successor? onwardEdge? defaultEdge? at h
  obtain ⟨e, he, hm⟩ := Option.bind_eq_some_iff.1 h
  rw [node?_id hm]
  apply target_mem_successorIds
  split at he
  · rename_i d hd
    cases he
    exact List.mem_of_find?_eq_some hd
  · split at he
    · cases he
    · exact List.mem_of_head? he

/-- The node that a rule leads to is one step away. -/
theorem ruleTarget?_mem {b : Branch} {r : Rule} (hb : n.body = .branch b) (hr : r ∈ b.rules)
    (h : Turn.ruleTarget? f n r = some m) : m.id ∈ f.successorIds n := by
  unfold Turn.ruleTarget? at h
  rcases Option.or_eq_some_iff.1 h with h | ⟨-, h⟩
  · obtain ⟨id, hid, hm⟩ := Option.bind_eq_some_iff.1 h
    rw [node?_id hm]
    refine List.mem_append_right _ (List.mem_filter.2 ⟨?_, ?_⟩)
    · simp only [Node.rules, hb]
      exact List.mem_filterMap.2 ⟨r, hr, hid⟩
    · have : id ≠ "" := by rintro rfl; simp [node?] at hm
      simpa using this
  · obtain ⟨e, he, hm⟩ := Option.bind_eq_some_iff.1 h
    rw [node?_id hm]
    apply target_mem_successorIds
    unfold labelledEdge? at he
    split at he
    · cases he
    · cases he
    · exact List.mem_of_find?_eq_some he

/-- Where a branch leads to without a rule is one step away, or the conversation is over. -/
theorem defaultStep_onward : Turn.defaultStep f n = { onward := .finish } ∨
    ∃ m : Node, Turn.defaultStep f n = { onward := .next m.id } ∧ m.id ∈ f.successorIds n := by
  unfold Turn.defaultStep
  split
  · rename_i m hm
    obtain ⟨e, he, hm⟩ := Option.bind_eq_some_iff.1 hm
    refine Or.inr ⟨m, rfl, ?_⟩
    rw [node?_id hm]
    exact target_mem_successorIds (List.mem_of_find?_eq_some he)
  · exact Or.inl rfl

/-- A time that is not at most nought is more than nought, or undefined. -/
theorem pos_or_nan_of_not_le_zero {x : Binary64} (h : x.le .zero = false) :
    Binary64.zero.lt x = true ∨ x = .nan := by
  cases x with
  | nan => exact Or.inr rfl
  | infinity negative =>
    left
    cases negative <;> simp_all [Binary64.le, Binary64.lt, Binary64.zero]
  | finite negative m e =>
    left
    simp only [Binary64.le, Binary64.lt, Binary64.same, Binary64.zero, Binary64.units?,
      Bool.or_eq_false_iff, decide_eq_false_iff_not, beq_eq_false_iff_ne] at h ⊢
    simp only [decide_eq_true_eq] at h ⊢
    simp at h ⊢
    omega

end Parley.Flow
