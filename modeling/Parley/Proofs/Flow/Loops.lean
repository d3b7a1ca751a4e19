import Mathlib.Data.List.Perm.Subperm
import Parley.Flow.Check
import Parley.Proofs.Turn.Ways

/-!
# Loops that never wait

`Flow.Idles` joins a node that never waits to every id that may come right after it. The walk of the
checks meets each such node (`idleLoops_settles`), and every loop of them has a node that it reports
(`idleLoops_complete`): a node is done with once everything after it is done with or reported, so
that what is done with can be taken in order (`Settles`).

The checks take every pause for a wait. A pause of no length is none: a turn goes straight on. So a
flow in which no loop is reported may still have ways without an end, but only through such a pause
(`not_loops`); all other ways have at most as many nodes as the flow (`behind?_eq_none`).
-/

namespace Parley

/-- A pause of no length, at which no turn stops. -/
def Node.IsEmptyPause (n : Node) : Prop := ∃ p, n.body = .pause p ∧ p.length.le .zero = true

namespace Flow

open Relation

variable {f : Flow} {a b id : String} {n m : Node} {w v : Walk}

/-- An id of a node at which no turn can stop. -/
def IsIdle (f : Flow) (id : String) : Prop := ∃ n, f.node? id = some n ∧ waits n = false

/-- A node at which no turn can stop may be followed by an id. -/
def Idles (f : Flow) (a b : String) : Prop :=
  ∃ n, f.node? a = some n ∧ waits n = false ∧ b ∈ f.successorIds n

theorem Idles.isIdle (h : f.Idles a b) : f.IsIdle a := by
  obtain ⟨n, hn, hwaits, -⟩ := h
  exact ⟨n, hn, hwaits⟩

/-! ## The walk -/

/-- What is done with, last one first: whatever comes after a node was done with before, or is
reported, or can stop a turn. -/
inductive Settles (f : Flow) (loops : List String) : List String → Prop
  | nil : Settles f loops []
  | cons {a : String} {done : List String} (rest : Settles f loops done)
    (onward : ∀ b, f.Idles a b → f.IsIdle b → b ∈ done ∨ b ∈ loops) : Settles f loops (a :: done)

theorem Settles.mono {loops loops' done : List String} (h : f.Settles loops done)
    (hloops : loops ⊆ loops') : f.Settles loops' done := by
  induction h with
  | nil => exact .nil
  | cons rest onward ih =>
    exact .cons ih fun b hab hb => (onward b hab hb).imp_right fun h => hloops h

/-- From a node that is done with, no loop leads around what is reported. -/
theorem Settles.acc {loops done : List String} (h : f.Settles loops done) (ha : a ∈ done) :
    Acc (fun b a => f.Idles a b ∧ b ∉ loops) a := by
  induction h generalizing a with
  | nil => cases ha
  | cons rest onward ih =>
    rcases List.mem_cons.1 ha with rfl | ha
    · refine ⟨_, fun b hb => ?_⟩
      by_cases hidle : f.IsIdle b
      · exact ih ((onward b hb.1 hidle).resolve_right hb.2)
      · exact ⟨_, fun c hc => absurd hc.1.isIdle hidle⟩
    · exact ih ha

/-- A later walk has done with more, and reports more. -/
structure Extends (f : Flow) (w v : Walk) : Prop where
  done : w.done ⊆ v.done
  loops : w.loops ⊆ v.loops
  settles : f.Settles v.loops v.done

theorem Extends.refl (hw : f.Settles w.loops w.done) : f.Extends w w :=
  ⟨List.Subset.refl _, List.Subset.refl _, hw⟩

theorem Extends.trans {u : Walk} (h : f.Extends w v) (k : f.Extends v u) : f.Extends w u :=
  ⟨List.Subset.trans h.done k.done, List.Subset.trans h.loops k.loops, k.settles⟩

theorem Extends.report (hw : f.Settles w.loops w.done) (id : String) :
    f.Extends w { w with loops := id :: w.loops } :=
  ⟨List.Subset.refl _, List.subset_cons_self _ _, hw.mono (List.subset_cons_self _ _)⟩

/-- A node was met: it is done with, or closes a loop with the way to it. -/
def Met (way : List String) (id : String) (v : Walk) : Prop :=
  id ∈ v.done ∨ id ∈ way ∧ id ∈ v.loops

theorem Met.extends {way : List String} (h : Met way id w) (k : f.Extends w v) : Met way id v :=
  h.imp (fun h => k.done h) fun h => ⟨h.1, k.loops h.2⟩

/-- A node is done with once all that may follow it was met on the way through it. -/
theorem Extends.finish {way : List String} (h : f.Extends w v) (hn : f.node? a = some n)
    (hall : ∀ b ∈ f.successorIds n, f.IsIdle b → Met way b v) :
    f.Extends w { v with done := a :: v.done } := by
  refine ⟨List.Subset.trans h.done (List.subset_cons_self _ _), h.loops, .cons h.settles ?_⟩
  rintro b ⟨n', hn', -, hb⟩ hidle
  obtain rfl : n = n' := Option.some.inj (hn.symm.trans hn')
  exact (hall b hb hidle).imp_right And.right

/-- Where one visit extends the walk and meets its node, visits to several nodes do. -/
theorem foldl_extends {way : List String} {visit : Walk → String → Walk}
    (h : ∀ w id, f.Settles w.loops w.done →
      f.Extends w (visit w id) ∧ (f.IsIdle id → Met way id (visit w id)))
    (ids : List String) {w : Walk} (hw : f.Settles w.loops w.done) :
    f.Extends w (ids.foldl visit w) ∧
      ∀ id ∈ ids, f.IsIdle id → Met way id (ids.foldl visit w) := by
  induction ids generalizing w with
  | nil => exact ⟨.refl hw, fun id h => by cases h⟩
  | cons a ids ih =>
    obtain ⟨hfirst, hmet⟩ := h w a hw
    obtain ⟨hrest, hall⟩ := ih hfirst.settles
    refine ⟨hfirst.trans hrest, fun id hid hidle => ?_⟩
    rcases List.mem_cons.1 hid with rfl | hid
    · exact (hmet hidle).extends hrest
    · exact hall id hid hidle

/-- A way on which no node comes twice is no longer than the flow has nodes. -/
theorem length_le_of_nodup {way : List String} (hnodup : way.Nodup)
    (hway : ∀ id ∈ way, id ∈ f.nodes.map (·.id)) : way.length ≤ f.nodes.length := by
  have := (hnodup.subperm hway).length_le
  rwa [List.length_map] at this

theorem mem_ids_of_node? (h : f.node? id = some n) : id ∈ f.nodes.map (·.id) :=
  node?_id h ▸ List.mem_map_of_mem (node?_mem h)

/-- A visit extends the walk and meets its node. The way to it has no node twice, so that the fuel
lasts. -/
theorem visit_extends {fuel : Nat} {way : List String} (hnodup : way.Nodup)
    (hway : ∀ id ∈ way, id ∈ f.nodes.map (·.id)) (hfuel : f.nodes.length < fuel + way.length)
    (w : Walk) (id : String) (hw : f.Settles w.loops w.done) :
    f.Extends w (f.visit fuel way w id) ∧ (f.IsIdle id → Met way id (f.visit fuel way w id)) := by
  induction fuel generalizing way w id with
  | zero =>
    have := length_le_of_nodup hnodup hway
    omega
  | succ fuel ih =>
    unfold visit
    cases hnode : f.node? id with
    | none => exact ⟨.refl hw, fun hidle => by simp [IsIdle, hnode] at hidle⟩
    | some n =>
      dsimp only
      by_cases hdone : waits n = true ∨ id ∈ w.done
      · rw [if_pos (by simpa using hdone)]
        refine ⟨.refl hw, fun hidle => Or.inl (hdone.resolve_left ?_)⟩
        simpa [IsIdle, hnode] using hidle
      · rw [if_neg (by simpa using hdone)]
        by_cases hmeets : id ∈ way
        · rw [if_pos (by simpa using hmeets)]
          by_cases hknown : id ∈ w.loops
          · rw [if_pos (by simpa using hknown)]
            exact ⟨.refl hw, fun _ => Or.inr ⟨hmeets, hknown⟩⟩
          · rw [if_neg (by simpa using hknown)]
            exact ⟨.report hw id, fun _ => Or.inr ⟨hmeets, List.mem_cons_self⟩⟩
        · rw [if_neg (by simpa using hmeets)]
          have hlonger : ∀ a ∈ id :: way, a ∈ f.nodes.map (·.id) :=
            List.forall_mem_cons.2 ⟨mem_ids_of_node? hnode, hway⟩
          obtain ⟨hextends, hall⟩ := foldl_extends
            (ih (List.nodup_cons.2 ⟨hmeets, hnodup⟩) hlonger (by rw [List.length_cons]; omega))
            (f.successorIds n) hw
          exact ⟨hextends.finish hnode hall, fun _ => Or.inl List.mem_cons_self⟩

/-- The checks have done with every node at which no turn can stop. -/
theorem idleLoops_settles (f : Flow) :
    ∃ done, f.Settles f.idleLoops done ∧ ∀ id, f.IsIdle id → id ∈ done := by
  have hvisit : ∀ w id, f.Settles w.loops w.done →
      f.Extends w (f.visit (f.nodes.length + 1) [] w id) ∧
        (f.IsIdle id → Met [] id (f.visit (f.nodes.length + 1) [] w id)) :=
    visit_extends List.nodup_nil (fun id h => by cases h) (Nat.lt_succ_self _)
  obtain ⟨hextends, hall⟩ := foldl_extends hvisit (f.nodes.map (·.id)) (w := {}) .nil
  rw [List.foldl_map] at hextends hall
  refine ⟨_, hextends.settles.mono fun id h => List.mem_reverse.2 h, fun id hidle => ?_⟩
  have hid : id ∈ f.nodes.map (·.id) := by
    obtain ⟨n, hn, -⟩ := hidle
    exact mem_ids_of_node? hn
  exact (hall id hid hidle).resolve_right fun h => by cases h.1

/-- Every loop of nodes that never wait has a node that is reported. -/
theorem idleLoops_complete (f : Flow) (a : String) :
    ¬ TransGen (fun a b => f.Idles a b ∧ b ∉ f.idleLoops) a a := by
  obtain ⟨done, hsettles, hdone⟩ := f.idleLoops_settles
  intro hloop
  obtain ⟨b, hab, -⟩ := TransGen.head'_iff.1 hloop
  induction (hsettles.acc (hdone a hab.1.isIdle)).transGen with
  | intro a _ ih => exact ih a (transGen_swap.2 hloop) hloop hab

/-! ## Ways -/

/-- A turn without a message goes straight on from one node to another. -/
def PassesTo (f : Flow) (n m : Node) : Prop := f.onward? n = some m

theorem PassesTo.node? (h : f.PassesTo n m) : f.node? m.id = some m := node?_of_onward? h

/-- Straight on leads from a node at which no turn can stop, or from a pause of no length. -/
theorem PassesTo.idles (h : f.PassesTo n m) (hn : f.node? n.id = some n)
    (hpause : ¬ n.IsEmptyPause) : f.Idles n.id m.id := by
  suffices waits n = false ∧ f.successor? n = some m from
    ⟨n, hn, this.1, successorIds_of_successor? this.2⟩
  unfold PassesTo onward? at h
  unfold waits
  split at h <;> rename_i hbody <;> simp only [hbody] <;> first
    | exact ⟨trivial, h⟩
    | cases h
    | split at h
  all_goals first
    | cases h
    | skip
  · rename_i hawait
    exact ⟨by simpa using hawait, h⟩
  · rename_i hawait
    exact ⟨by simpa using hawait, h⟩
  · rename_i hzero
    exact absurd ⟨_, hbody, hzero⟩ hpause

/-- A way goes through a pause of no length, or along nodes at which no turn can stop. -/
theorem emptyPause_or_idles (h : TransGen f.PassesTo n m) (hn : f.node? n.id = some n) :
    (∃ z : Node, z.IsEmptyPause ∧ ReflTransGen f.PassesTo n z ∧ TransGen f.PassesTo z m) ∨
      TransGen f.Idles n.id m.id := by
  induction h with
  | single h =>
    by_cases hpause : n.IsEmptyPause
    · exact Or.inl ⟨n, hpause, .refl, .single h⟩
    · exact Or.inr (.single (h.idles hn hpause))
  | @tail c d hnc hcd ih =>
    rcases ih with ⟨z, hz, hnz, hzc⟩ | hidles
    · exact Or.inl ⟨z, hz, hnz, hzc.tail hcd⟩
    · by_cases hpause : c.IsEmptyPause
      · exact Or.inl ⟨c, hpause, hnc.to_reflTransGen, .single hcd⟩
      · obtain ⟨b, -, hbc⟩ := TransGen.tail'_iff.1 hnc
        exact Or.inr (hidles.tail (hcd.idles hbc.node? hpause))

/-- Where no loop is reported, and none leads through a pause of no length, no way comes back to
where it began. -/
theorem not_loops (hloops : f.idleLoops = [])
    (hpauses : ∀ z : Node, z.IsEmptyPause → ¬ TransGen f.PassesTo z z)
    (hn : f.node? n.id = some n) : ¬ TransGen f.PassesTo n n := by
  intro hloop
  rcases emptyPause_or_idles hloop hn with ⟨z, hz, hnz, hzn⟩ | hidles
  · exact hpauses z hz (TransGen.trans_left hzn hnz)
  · have hbare : ∀ a b, f.Idles a b → f.Idles a b ∧ b ∉ f.idleLoops := by
      intro a b hab
      rw [hloops]
      exact ⟨hab, List.not_mem_nil⟩
    exact f.idleLoops_complete n.id (TransGen.mono hbare _ _ hidles)

/-- A node of a way is the first one, or one that the first one leads to. -/
theorem mem_ways {k : Nat} (h : id ∈ f.ways k n) :
    id = n.id ∨ ∃ m, TransGen f.PassesTo n m ∧ m.id = id := by
  induction k generalizing n with
  | zero => cases h
  | succ k ih =>
    rcases List.mem_cons.1 h with rfl | h
    · exact Or.inl rfl
    · cases hm : f.onward? n with
      | none =>
        rw [hm] at h
        cases h
      | some m =>
        rw [hm] at h
        rcases ih h with rfl | ⟨c, hmc, rfl⟩
        · exact Or.inr ⟨m, .single hm, rfl⟩
        · exact Or.inr ⟨c, .head hm hmc, rfl⟩

/-- A way that never comes back has no node twice. -/
theorem ways_nodup (hloop : ∀ n, f.node? n.id = some n → ¬ TransGen f.PassesTo n n)
    (hn : f.node? n.id = some n) (k : Nat) : (f.ways k n).Nodup := by
  induction k generalizing n with
  | zero => exact List.nodup_nil
  | succ k ih =>
    show (n.id :: (f.onward? n).elim [] (f.ways k)).Nodup
    cases hm : f.onward? n with
    | none => exact List.nodup_singleton _
    | some m =>
      have hpasses : f.PassesTo n m := hm
      refine List.nodup_cons.2 ⟨fun hmem => hloop n hn ?_, ih hpasses.node?⟩
      rcases mem_ways hmem with hid | ⟨c, hmc, hid⟩
      · obtain rfl : n = m := Option.some.inj (hn.symm.trans (hid ▸ hpasses.node?))
        exact .single hpasses
      · obtain ⟨b, -, hbc⟩ := TransGen.tail'_iff.1 hmc
        obtain rfl : n = c := Option.some.inj (hn.symm.trans (hid ▸ hbc.node?))
        exact hmc.head hpasses

/-- The nodes of a way are nodes of the flow. -/
theorem ways_subset (hn : f.node? n.id = some n) (k : Nat) :
    f.ways k n ⊆ f.nodes.map (·.id) := by
  intro id hid
  rcases mem_ways hid with rfl | ⟨m, hnm, rfl⟩
  · exact mem_ids_of_node? hn
  · obtain ⟨b, -, hbm⟩ := TransGen.tail'_iff.1 hnm
    exact mem_ids_of_node? hbm.node?

theorem length_ways_of_behind? {k : Nat} (h : f.behind? k n = some m) :
    (f.ways k n).length = k := by
  induction k generalizing n with
  | zero => rfl
  | succ k ih =>
    obtain ⟨c, hc, hbehind⟩ := Option.bind_eq_some_iff.1 h
    show (n.id :: (f.onward? n).elim [] (f.ways k)).length = k + 1
    rw [hc]
    exact congrArg (· + 1) (ih hbehind)

/-- A way that never comes back is no longer than the flow has nodes. -/
theorem behind?_eq_none (hloop : ∀ n, f.node? n.id = some n → ¬ TransGen f.PassesTo n n)
    (hn : f.node? n.id = some n) : f.behind? f.nodes.length n = none := by
  cases hbehind : f.behind? f.nodes.length n with
  | none => rfl
  | some m =>
    have hlength : (f.ways (f.nodes.length + 1) n).length = f.nodes.length + 1 := by
      rw [ways_add_of_behind? hbehind, List.length_append, length_ways_of_behind? hbehind]
      cases h : f.onward? m <;> simp [ways, h]
    have := length_le_of_nodup (ways_nodup hloop hn _) (ways_subset hn (f.nodes.length + 1))
    omega

/-- A way that comes to a loop has no end. -/
theorem behind?_of_loop (hnm : ReflTransGen f.PassesTo n m) (hloop : TransGen f.PassesTo m m)
    (k : Nat) : ∃ c, f.behind? k n = some c := by
  induction k generalizing n with
  | zero => exact ⟨n, rfl⟩
  | succ k ih =>
    obtain ⟨c, hnc, hcm⟩ := TransGen.head'_iff.1 (TransGen.trans_right hnm hloop)
    obtain ⟨d, hd⟩ := ih hcm
    exact ⟨d, Option.bind_eq_some_iff.2 ⟨c, hnc, hd⟩⟩

end Flow

end Parley
