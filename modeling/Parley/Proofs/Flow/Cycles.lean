import Parley.Proofs.Flow.Loops
import Parley.Proofs.Flow.Orphans

/-!
# The loops that are reported

`Flow.Walks` is the walk of the checks as such: it visits one id after the other and goes in depth
through the nodes at which no turn can stop, without a bound on how deep. Every walk comes to an
end, the same one whenever it is taken, and `Flow.idleLoops` is what it reports
(`walks_idleLoops`, `Walks.unique`): the bound that `Flow.visit` counts down is never met.

The way to a node leads from each of its nodes to the next one (`Walks.sound`). So a node that is
met again on the way lies on a loop, and with `idleLoops_complete` no loop is missed
(`reported_loops_spec`).
-/

namespace Parley.Flow

open Relation

variable {f : Flow} {a b id : String} {n : Node} {way ids loop : List String} {u v w : Walk}

/-- A node at which no turn can stop may be followed by another one. -/
def IdleStep (f : Flow) (a b : String) : Prop := f.Idles a b ∧ f.IsIdle b

/-- The ids are those of nodes at which no turn can stop, and each of these points to the next one,
the last one to the first. -/
def IsIdleLoop (f : Flow) (loop : List String) : Prop :=
  (∀ id ∈ loop, f.IsIdle id) ∧
    ∃ a rest, loop = a :: rest ∧ (a :: (rest ++ [a])).IsChain f.Points

theorem idleStep_iff : f.IdleStep a b ↔ f.IsIdle a ∧ f.IsIdle b ∧ f.Points a b := by
  constructor
  · rintro ⟨⟨n, hn, hwaits, hb⟩, hidle⟩
    exact ⟨⟨n, hn, hwaits⟩, hidle, points_iff_leads.2 ⟨n, node?_mem hn, node?_id hn, hb⟩⟩
  · rintro ⟨⟨n, hn, hwaits⟩, hidle, hab⟩
    obtain ⟨m, hm, hid, hb⟩ := points_iff_leads.1 hab
    obtain rfl : m = n :=
      List.inj_on_of_nodup_map f.nodup_ids hm (node?_mem hn) (hid.trans (node?_id hn).symm)
    exact ⟨⟨m, hn, hwaits, hb⟩, hidle⟩

/-! ## The walk without its bound -/

/-- The walk with a node reported that was met on the way to itself; a node is reported once. -/
def Walk.report (w : Walk) (id : String) : Walk :=
  if id ∈ w.loops then w else { w with loops := id :: w.loops }

/-- The walk with a node done with. -/
def Walk.finish (w : Walk) (id : String) : Walk := { w with done := id :: w.done }

/-- A walk that visits some ids, one after the other, with all that follows them; `way` holds the
nodes that led there. -/
inductive Walks (f : Flow) : (way : List String) → Walk → List String → Walk → Prop
  | nil {way : List String} {w : Walk} : Walks f way w [] w
  /-- What is no node, can stop a turn or is done with is passed over. -/
  | pass {way ids : List String} {w v : Walk} {id : String} (h : ¬ f.IsIdle id ∨ id ∈ w.done)
    (rest : Walks f way w ids v) : Walks f way w (id :: ids) v
  /-- A node on the way closes a loop. -/
  | meet {way ids : List String} {w v : Walk} {id : String} (idle : f.IsIdle id)
    (fresh : id ∉ w.done) (met : id ∈ way) (rest : Walks f way (w.report id) ids v) :
    Walks f way w (id :: ids) v
  /-- A new node is gone through: what follows it comes first. -/
  | enter {way ids : List String} {w u v : Walk} {id : String} {n : Node}
    (node : f.node? id = some n) (idle : waits n = false) (fresh : id ∉ w.done) (new : id ∉ way)
    (onward : Walks f (id :: way) w (f.successorIds n) u)
    (rest : Walks f way (u.finish id) ids v) : Walks f way w (id :: ids) v

theorem visit_of_passed {fuel : Nat} (h : ¬ f.IsIdle id ∨ id ∈ w.done) :
    f.visit (fuel + 1) way w id = w := by
  unfold visit
  cases hnode : f.node? id with
  | none => rfl
  | some n =>
    have hpassed : waits n = true ∨ id ∈ w.done := by
      refine h.imp_left fun hidle => ?_
      by_contra hwaits
      exact hidle ⟨n, hnode, by simpa using hwaits⟩
    exact if_pos (by simpa using hpassed)

theorem visit_of_met {fuel : Nat} (hidle : f.IsIdle id) (hfresh : id ∉ w.done) (hmet : id ∈ way) :
    f.visit (fuel + 1) way w id = w.report id := by
  obtain ⟨n, hnode, hwaits⟩ := hidle
  simp [visit, Walk.report, hnode, hwaits, hfresh, hmet]

theorem visit_of_new {fuel : Nat} (hnode : f.node? id = some n) (hwaits : waits n = false)
    (hfresh : id ∉ w.done) (hnew : id ∉ way) :
    f.visit (fuel + 1) way w id =
      ((f.successorIds n).foldl (f.visit fuel (id :: way)) w).finish id := by
  simp [visit, Walk.finish, hnode, hwaits, hfresh, hnew]

/-- The visits are a walk. The way has no node twice, so that the fuel lasts. -/
theorem walks_visit {fuel : Nat} (hnodup : way.Nodup) (hway : ∀ id ∈ way, id ∈ f.nodes.map (·.id))
    (hfuel : f.nodes.length < fuel + way.length) (w : Walk) (ids : List String) :
    f.Walks way w ids (ids.foldl (f.visit fuel way) w) := by
  induction fuel generalizing way w ids with
  | zero =>
    have := length_le_of_nodup hnodup hway
    omega
  | succ fuel ih =>
    induction ids generalizing w with
    | nil => exact .nil
    | cons id ids ihids =>
      rw [List.foldl_cons]
      by_cases hpassed : ¬ f.IsIdle id ∨ id ∈ w.done
      · rw [visit_of_passed hpassed]
        exact .pass hpassed (ihids w)
      · obtain ⟨hidle, hfresh⟩ := not_or.1 hpassed
        have hidle := not_not.1 hidle
        by_cases hmet : id ∈ way
        · rw [visit_of_met hidle hfresh hmet]
          exact .meet hidle hfresh hmet (ihids _)
        · obtain ⟨n, hnode, hwaits⟩ := hidle
          rw [visit_of_new hnode hwaits hfresh hmet]
          have hlonger : ∀ a ∈ id :: way, a ∈ f.nodes.map (·.id) :=
            List.forall_mem_cons.2 ⟨mem_ids_of_node? hnode, hway⟩
          exact .enter hnode hwaits hfresh hmet
            (ih (List.nodup_cons.2 ⟨hmet, hnodup⟩) hlonger (by rw [List.length_cons]; omega) _ _)
            (ihids _)

/-- A walk comes to one end only. -/
theorem Walks.unique (h : f.Walks way w ids u) (k : f.Walks way w ids v) : u = v := by
  induction h generalizing v with
  | nil =>
    cases k
    rfl
  | pass hpassed _ ih =>
    cases k with
    | pass _ rest => exact ih rest
    | meet hidle hfresh => exact (hpassed.elim (· hidle) hfresh).elim
    | enter hnode hwaits hfresh => exact (hpassed.elim (· ⟨_, hnode, hwaits⟩) hfresh).elim
  | meet hidle hfresh hmet _ ih =>
    cases k with
    | pass hpassed => exact (hpassed.elim (· hidle) hfresh).elim
    | meet _ _ _ rest => exact ih rest
    | enter _ _ _ hnew => exact (hnew hmet).elim
  | enter hnode hwaits hfresh hnew _ _ ihonward ihrest =>
    cases k with
    | pass hpassed => exact (hpassed.elim (· ⟨_, hnode, hwaits⟩) hfresh).elim
    | meet _ _ hmet => exact (hnew hmet).elim
    | enter hnode' _ _ _ onward rest =>
      obtain rfl := Option.some.inj (hnode.symm.trans hnode')
      obtain rfl := ihonward onward
      exact ihrest rest

/-- What the walk from every node reports is what the checks do. -/
theorem walks_idleLoops (f : Flow) :
    ∃ w, f.Walks [] {} (f.nodes.map (·.id)) w ∧ f.idleLoops = w.loops.reverse := by
  refine ⟨_, walks_visit List.nodup_nil (fun id h => by cases h) (Nat.lt_succ_self _) _ _, ?_⟩
  rw [List.foldl_map]
  rfl

/-! ## What is reported -/

/-- What the walk has reported: each node once, and nodes on loops only. -/
structure Walk.IsSound (f : Flow) (w : Walk) : Prop where
  nodup : w.loops.Nodup
  loops : ∀ a ∈ w.loops, TransGen f.IdleStep a a

theorem Walk.IsSound.report (h : w.IsSound f) (hid : TransGen f.IdleStep id id) :
    (w.report id).IsSound f := by
  unfold Walk.report
  split
  · exact h
  · rename_i hnew
    exact ⟨List.nodup_cons.2 ⟨hnew, h.nodup⟩, List.forall_mem_cons.2 ⟨hid, h.loops⟩⟩

/-- From a node on the way the steps lead to the last one. -/
theorem leads_of_mem_way (h : (b :: way).IsChain fun b a => f.IdleStep a b) (ha : a ∈ b :: way) :
    ReflTransGen f.IdleStep a b := by
  induction way generalizing b with
  | nil =>
    rw [List.mem_singleton.1 ha]
  | cons c way ih =>
    obtain ⟨hcb, hrest⟩ := List.isChain_cons_cons.1 h
    rcases List.mem_cons.1 ha with rfl | ha
    · exact .refl
    · exact (ih hrest ha).tail hcb

/-- A walk reports what lies on a loop, where each node of the way leads to the next one and the
last one to the ids that are visited. -/
theorem Walks.sound (h : f.Walks way w ids v) (hway : way.IsChain fun b a => f.IdleStep a b)
    (hids : ∀ b ∈ way.head?, ∀ id ∈ ids, f.Idles b id) (hw : w.IsSound f) : v.IsSound f := by
  induction h with
  | nil => exact hw
  | pass _ _ ih => exact ih hway (fun b hb id hid => hids b hb id (List.mem_cons_of_mem _ hid)) hw
  | @meet way _ _ _ id hidle _ hmet _ ih =>
    refine ih hway (fun b hb id hid => hids b hb id (List.mem_cons_of_mem _ hid)) (hw.report ?_)
    -- The way leads from the node to its own end, and from there back to the node.
    cases way with
    | nil => cases hmet
    | cons b way =>
      exact .tail' (leads_of_mem_way hway hmet) ⟨hids b rfl id List.mem_cons_self, hidle⟩
  | @enter way _ _ _ _ id n hnode hwaits _ _ _ _ ihonward ihrest =>
    have hidle : f.IsIdle id := ⟨n, hnode, hwaits⟩
    have hlonger : (id :: way).IsChain fun b a => f.IdleStep a b :=
      List.isChain_cons.2 ⟨fun b hb => ⟨hids b hb id List.mem_cons_self, hidle⟩, hway⟩
    have honward : ∀ b ∈ (id :: way).head?, ∀ c ∈ f.successorIds n, f.Idles b c := by
      rintro b hb c hc
      obtain rfl : id = b := Option.some.inj hb
      exact ⟨n, hnode, hwaits, hc⟩
    have hu := ihonward hlonger honward hw
    exact ihrest hway (fun b hb id hid => hids b hb id (List.mem_cons_of_mem _ hid))
      ⟨hu.nodup, hu.loops⟩

theorem idleLoops_sound (f : Flow) :
    f.idleLoops.Nodup ∧ ∀ a ∈ f.idleLoops, TransGen f.IdleStep a a := by
  obtain ⟨w, hw, hloops⟩ := f.walks_idleLoops
  have hsound : w.IsSound f := hw.sound .nil (fun b hb => by cases hb) ⟨List.nodup_nil, by simp⟩
  rw [hloops]
  exact ⟨List.nodup_reverse.2 hsound.nodup, fun a ha => hsound.loops a (List.mem_reverse.1 ha)⟩

/-- Steps from id to id lead from the first one to the last. -/
theorem transGen_of_isChain {r : String → String → Prop} {c : String} {rest : List String}
    (h : (a :: (rest ++ [c])).IsChain r) : TransGen r a c := by
  induction rest generalizing a with
  | nil => exact .single (List.isChain_cons_cons.1 h).1
  | cons b rest ih =>
    obtain ⟨hab, hrest⟩ := List.isChain_cons_cons.1 h
    exact .head hab (ih hrest)

/-- Step by step, what comes after the first id is the id of a node at which no turn can stop. -/
theorem isIdle_of_isChain (h : (a :: ids).IsChain f.IdleStep) : ∀ b ∈ ids, f.IsIdle b := by
  induction ids generalizing a with
  | nil => exact fun _ hb => absurd hb List.not_mem_nil
  | cons c ids ih =>
    obtain ⟨hac, hrest⟩ := List.isChain_cons_cons.1 h
    exact List.forall_mem_cons.2 ⟨hac.2, ih hrest⟩

/-- What leads from a node back to it are the nodes of a loop. -/
theorem exists_idleLoop (h : TransGen f.IdleStep a a) : ∃ loop, f.IsIdleLoop loop ∧ a ∈ loop := by
  obtain ⟨b, hab, hba⟩ := TransGen.head'_iff.1 h
  obtain ⟨l, hchain, hlast⟩ := List.exists_isChain_cons_of_relationReflTransGen hba
  have hends : (b :: l).dropLast ++ [a] = b :: l := by
    rw [← hlast, List.dropLast_append_getLast]
  have hsteps : (a :: ((b :: l).dropLast ++ [a])).IsChain f.IdleStep := by
    rw [hends]
    exact List.isChain_cons_cons.2 ⟨hab, hchain⟩
  refine ⟨a :: (b :: l).dropLast, ⟨fun c hc => ?_, a, _, rfl, ?_⟩, List.mem_cons_self⟩
  · refine isIdle_of_isChain hsteps c ?_
    rcases List.mem_cons.1 hc with rfl | hc
    · exact List.mem_append_right _ (List.mem_singleton_self _)
    · exact List.mem_append_left _ hc
  · exact hsteps.imp fun _ _ hstep => (idleStep_iff.1 hstep).2.2

/-- A loop leads from each of its nodes back to it; the first one is as good as any. -/
theorem IsIdleLoop.transGen {rest : List String} {r : String → String → Prop}
    (h : f.IsIdleLoop (a :: rest))
    (hr : ∀ b ∈ a :: rest, ∀ c ∈ a :: rest, f.IdleStep b c → r b c) : TransGen r a a := by
  obtain ⟨hidle, a, rest, heq, hchain⟩ := h
  cases heq
  have hmem : ∀ b ∈ a :: (rest ++ [a]), b ∈ a :: rest := by simp [or_comm]
  exact transGen_of_isChain (hchain.imp_of_mem_imp fun b c hb hc hbc =>
    hr b (hmem b hb) c (hmem c hc)
      (idleStep_iff.2 ⟨hidle b (hmem b hb), hidle c (hmem c hc), hbc⟩))

/-- The loops that are reported: the walk through all nodes comes to an end, and to one only; each
node that it reports lies on a loop of nodes at which no turn can stop, each such loop has a node
that is reported, and none is reported twice. So nothing is reported exactly where there is no such
loop. -/
theorem reported_loops_spec (f : Flow) :
    f.problems.filter (·.code == "AUTO_ADVANCE_LOOP") = f.idleLoops.map .idleLoop ∧
      (∃ w, f.Walks [] {} (f.nodes.map (·.id)) w ∧ f.idleLoops = w.loops.reverse ∧
        ∀ v, f.Walks [] {} (f.nodes.map (·.id)) v → v = w) ∧
      (∀ id ∈ f.idleLoops, ∃ loop, f.IsIdleLoop loop ∧ id ∈ loop) ∧
      (∀ loop, f.IsIdleLoop loop → ∃ id ∈ loop, id ∈ f.idleLoops) ∧
      f.idleLoops.Nodup ∧
      (f.idleLoops = [] ↔ ∀ loop, ¬ f.IsIdleLoop loop) := by
  have hends : ∃ w, f.Walks [] {} (f.nodes.map (·.id)) w ∧ f.idleLoops = w.loops.reverse ∧
      ∀ v, f.Walks [] {} (f.nodes.map (·.id)) v → v = w := by
    obtain ⟨w, hw, hloops⟩ := f.walks_idleLoops
    exact ⟨w, hw, hloops, fun v hv => hv.unique hw⟩
  obtain ⟨hnodup, hloops⟩ := f.idleLoops_sound
  have hsound : ∀ id ∈ f.idleLoops, ∃ loop, f.IsIdleLoop loop ∧ id ∈ loop :=
    fun id hid => exists_idleLoop (hloops id hid)
  have hcomplete : ∀ loop, f.IsIdleLoop loop → ∃ id ∈ loop, id ∈ f.idleLoops := by
    intro loop hloop
    by_contra hmissed
    obtain ⟨a, rest, rfl, -⟩ := hloop.2
    refine f.idleLoops_complete a (hloop.transGen fun b _ c hc hbc => ⟨hbc.1, fun hreported => ?_⟩)
    exact hmissed ⟨c, hc, hreported⟩
  refine ⟨loops_eq f, hends, hsound, hcomplete, hnodup, fun hnone loop hloop => ?_, fun hnone => ?_⟩
  · obtain ⟨id, -, hid⟩ := hcomplete loop hloop
    rw [hnone] at hid
    cases hid
  · refine List.eq_nil_iff_forall_not_mem.2 fun id hid => ?_
    obtain ⟨loop, hloop, -⟩ := hsound id hid
    exact hnone loop hloop

end Parley.Flow
