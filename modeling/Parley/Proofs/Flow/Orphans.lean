import Mathlib.Data.List.Flatten
import Parley.Proofs.Flow.Findings
import Parley.Proofs.Flow.Paths

/-!
# The nodes out of reach

`Flow.Searches` is the search of the checks round by round: each round takes the first id from the
queue. It comes to an end after no more rounds than there are ways between nodes, and one more
(`searches_unseen`), wherever these ways lead.

What carries the search is `Flow.IsSearch`: whatever was met is reached, and whatever comes after it
was met, stands in the queue or is no node. Once the queue is empty, no way leads from what was met
to what was not, so that exactly what is out of reach is left (`mem_unseen_iff`).
-/

namespace Parley.Flow

open Relation

variable {f : Flow} {n : Node} {a b id : String} {left unmet : List Node} {queue : List String}

/-- One node points to an id: by an edge that leaves it, or by a rule where it branches. -/
inductive Points (f : Flow) : String → String → Prop
  | edge {e : Edge} (from_node : ∃ n ∈ f.nodes, n.id = e.source) (mem : e ∈ f.edges) :
    Points f e.source e.target
  | rule {n : Node} {b : Branch} {r : Rule} {id : String} (mem : n ∈ f.nodes)
    (branch : n.body = .branch b) (rule : r ∈ b.rules) (target : r.target = some id)
    (nonempty : id ≠ "") : Points f n.id id

/-- What may come after a node is what it points to. -/
theorem points_iff_leads : f.Points a b ↔ f.Leads a b := by
  constructor
  · rintro (⟨⟨n, hn, hid⟩, he⟩ | ⟨hn, hbranch, hr, htarget, hne⟩)
    · exact ⟨n, hn, hid, target_mem_successorIds (List.mem_filter.2 ⟨he, by simp [hid]⟩)⟩
    · refine ⟨_, hn, rfl, List.mem_append_right _ (List.mem_filter.2 ⟨?_, by simpa using hne⟩)⟩
      exact List.mem_filterMap.2 ⟨_, by simpa [Node.rules, hbranch] using hr, htarget⟩
  · rintro ⟨n, hn, rfl, hb⟩
    rcases List.mem_append.1 hb with hb | hb
    · obtain ⟨e, he, rfl⟩ := List.mem_map.1 hb
      obtain ⟨hmem, hsource⟩ := List.mem_filter.1 he
      have hsource : e.source = n.id := by simpa using hsource
      exact hsource ▸ .edge ⟨n, hn, hsource.symm⟩ hmem
    · obtain ⟨hb, hne⟩ := List.mem_filter.1 hb
      obtain ⟨r, hr, htarget⟩ := List.mem_filterMap.1 hb
      unfold Node.rules at hr
      split at hr
      · exact .rule hn ‹_› hr htarget (by simpa using hne)
      · cases hr

/-! ## The search, round by round -/

/-- The ids that are queued when a node is met. -/
def onwardIds (f : Flow) (n : Node) : List String :=
  if n.id = "" then [] else (f.successorIds n).filter (· != "")

/-- A search takes some rounds and leaves the nodes that it has not met. -/
inductive Searches (f : Flow) : (left : List Node) → (queue : List String) → (rounds : Nat) →
    (unmet : List Node) → Prop
  | done {left : List Node} : Searches f left [] 0 left
  /-- An id that was met before, or is that of no node, is passed over. -/
  | skip {left unmet : List Node} {queue : List String} {id : String} {rounds : Nat}
    (gone : left.find? (·.id == id) = none) (rest : Searches f left queue rounds unmet) :
    Searches f left (id :: queue) (rounds + 1) unmet
  /-- A node is met, and what comes after it is queued. -/
  | meet {left unmet : List Node} {queue : List String} {id : String} {n : Node} {rounds : Nat}
    (there : left.find? (·.id == id) = some n)
    (rest : Searches f (without id left) (queue ++ f.onwardIds n) rounds unmet) :
    Searches f left (id :: queue) (rounds + 1) unmet

theorem unseen_of_gone (h : left.find? (·.id == id) = none) :
    f.unseen left (id :: queue) = f.unseen left queue := by
  rw [unseen]
  split
  · rfl
  · rename_i hsome
    cases hsome.symm.trans h

theorem unseen_of_there (h : left.find? (·.id == id) = some n) :
    f.unseen left (id :: queue) = f.unseen (without id left) (queue ++ f.onwardIds n) := by
  rw [unseen]
  split
  · rename_i hnone
    cases hnone.symm.trans h
  · rename_i m hsome
    obtain rfl : m = n := Option.some.inj (hsome.symm.trans h)
    have hid : m.id = id := by simpa using List.find?_some h
    rw [onwardIds, hid]

/-- A search comes to one end only. -/
theorem Searches.unmet_eq {rounds : Nat} (h : f.Searches left queue rounds unmet) :
    unmet = f.unseen left queue := by
  induction h with
  | done => rw [unseen]
  | skip gone _ ih => rw [unseen_of_gone gone, ih]
  | meet there _ ih => rw [unseen_of_there there, ih]

/-- How many ways lead on from the nodes. -/
def waysFrom (f : Flow) (nodes : List Node) : Nat := (nodes.flatMap f.successorIds).length

theorem length_onwardIds_le (f : Flow) (n : Node) :
    (f.onwardIds n).length ≤ (f.successorIds n).length := by
  unfold onwardIds
  split
  · exact Nat.zero_le _
  · exact List.length_filter_le _ _

/-- Without a node, its ways are gone. -/
theorem waysFrom_without (h : left.find? (·.id == id) = some n) :
    (f.successorIds n).length + f.waysFrom (without id left) ≤ f.waysFrom left := by
  induction left with
  | nil => cases h
  | cons m left ih =>
    have hways : f.waysFrom (m :: left) = (f.successorIds m).length + f.waysFrom left :=
      List.length_append
    have hfewer : f.waysFrom (without id left) ≤ f.waysFrom left :=
      (List.filter_sublist.flatMap _).length_le
    by_cases hm : m.id = id
    · rw [List.find?_cons_of_pos (by simpa using hm)] at h
      obtain rfl := Option.some.inj h
      have : without id (m :: left) = without id left := by simp [without, hm]
      rw [this]
      omega
    · rw [List.find?_cons_of_neg (by simpa using hm)] at h
      have hrest := ih h
      have : without id (m :: left) = m :: without id left := by simp [without, hm]
      rw [this]
      have hkept : f.waysFrom (m :: without id left) =
        (f.successorIds m).length + f.waysFrom (without id left) := List.length_append
      omega

/-- A search ends: every id in the queue takes a round, and so does every way from a node met. -/
theorem searches_unseen (f : Flow) (left : List Node) (queue : List String) :
    ∃ rounds ≤ queue.length + f.waysFrom left,
      f.Searches left queue rounds (f.unseen left queue) := by
  induction left, queue using unseen.induct f with
  | case1 left => exact ⟨0, Nat.zero_le _, by rw [unseen]; exact .done⟩
  | case2 left id queue gone ih =>
    obtain ⟨rounds, hle, hrest⟩ := ih
    rw [unseen_of_gone gone]
    exact ⟨rounds + 1, by rw [List.length_cons]; omega, .skip gone hrest⟩
  | case3 left id queue n there onward ih =>
    have hid : n.id = id := by simpa using List.find?_some there
    have honward : onward = f.onwardIds n := by
      rw [onwardIds, hid]
      rfl
    rw [honward] at ih
    obtain ⟨rounds, hle, hrest⟩ := ih
    rw [unseen_of_there there]
    refine ⟨rounds + 1, ?_, .meet there hrest⟩
    have hways := waysFrom_without (f := f) there
    have hqueued := f.length_onwardIds_le n
    rw [List.length_append] at hle
    rw [List.length_cons]
    omega

/-- What is left is what was left before, but for what was met. -/
theorem Searches.sublist {rounds : Nat} (h : f.Searches left queue rounds unmet) :
    unmet.Sublist left := by
  induction h with
  | done => exact List.Sublist.refl _
  | skip _ _ ih => exact ih
  | meet _ _ ih => exact ih.trans List.filter_sublist

/-! ## What the search meets -/

/-- No node of the id is left. -/
def IsGone (left : List Node) (id : String) : Prop := ∀ n ∈ left, n.id ≠ id

/-- A search from an id: the queue and the nodes met are reached, and no way leads from there to a
node that is left without being queued. -/
structure IsSearch (f : Flow) (start : String) (left : List Node) (queue : List String) : Prop where
  nodes : ∀ n ∈ left, n ∈ f.nodes
  begun : start ∈ queue ∨ IsGone left start
  queued : ∀ id ∈ queue, ReflTransGen f.Points start id
  met : ∀ n ∈ f.nodes, n ∉ left → ReflTransGen f.Points start n.id
  onward : ∀ n ∈ f.nodes, n ∉ left → ∀ b, f.Points n.id b → b ∈ queue ∨ IsGone left b

variable {start : String}

theorem isSearch_start (f : Flow) (start : String) : f.IsSearch start f.nodes [start] where
  nodes _ h := h
  begun := .inl (List.mem_singleton_self start)
  queued _ h := List.mem_singleton.1 h ▸ .refl
  met _ hn hleft := absurd hn hleft
  onward _ hn hleft := absurd hn hleft

/-- Passing over an id of which no node is left. -/
theorem IsSearch.skip (h : f.IsSearch start left (id :: queue))
    (gone : left.find? (·.id == id) = none) : f.IsSearch start left queue := by
  have hgone : IsGone left id := fun n hn => by simpa using List.find?_eq_none.1 gone n hn
  have hkept : ∀ b, b ∈ id :: queue ∨ IsGone left b → b ∈ queue ∨ IsGone left b := by
    rintro b (hb | hb)
    · rcases List.mem_cons.1 hb with rfl | hb
      · exact .inr hgone
      · exact .inl hb
    · exact .inr hb
  exact ⟨h.nodes, hkept _ h.begun, fun b hb => h.queued b (List.mem_cons_of_mem _ hb), h.met,
    fun n hn hleft b hb => hkept b (h.onward n hn hleft b hb)⟩

theorem mem_without : n ∈ without id left ↔ n ∈ left ∧ n.id ≠ id := by
  simp [without]

/-- Meeting the node of an id. -/
theorem IsSearch.meet (hids : ∀ n ∈ f.nodes, n.id ≠ "") (h : f.IsSearch start left (id :: queue))
    (there : left.find? (·.id == id) = some n) :
    f.IsSearch start (without id left) (queue ++ f.onwardIds n) := by
  have hn : n ∈ f.nodes := h.nodes n (List.mem_of_find?_eq_some there)
  obtain rfl : n.id = id := by simpa using List.find?_some there
  have hreach : ReflTransGen f.Points start n.id := h.queued _ List.mem_cons_self
  have hpoints : ∀ b ∈ f.onwardIds n, f.Points n.id b := fun b hb => by
    rw [onwardIds, if_neg (hids n hn)] at hb
    exact points_iff_leads.2 ⟨n, hn, rfl, (List.mem_filter.1 hb).1⟩
  have hgone : ∀ b, IsGone left b → IsGone (without n.id left) b :=
    fun b hb m hm => hb m (mem_without.1 hm).1
  have hkept : ∀ b, b ∈ n.id :: queue ∨ IsGone left b →
      b ∈ queue ++ f.onwardIds n ∨ IsGone (without n.id left) b := by
    rintro b (hb | hb)
    · rcases List.mem_cons.1 hb with rfl | hb
      · exact .inr fun m hm => (mem_without.1 hm).2
      · exact .inl (List.mem_append_left _ hb)
    · exact .inr (hgone b hb)
  -- What is not left was met before, or is the node that is met now.
  have hmet : ∀ m ∈ f.nodes, m ∉ without n.id left → m ∉ left ∨ m = n := fun m hm hleft => by
    by_cases hin : m ∈ left
    · refine .inr (List.inj_on_of_nodup_map f.nodup_ids hm hn ?_)
      by_contra hne
      exact hleft (mem_without.2 ⟨hin, hne⟩)
    · exact .inl hin
  refine ⟨fun m hm => h.nodes m (mem_without.1 hm).1, hkept _ h.begun, fun b hb => ?_,
    fun m hm hleft => ?_, fun m hm hleft b hb => ?_⟩
  · rcases List.mem_append.1 hb with hb | hb
    · exact h.queued b (List.mem_cons_of_mem _ hb)
    · exact hreach.tail (hpoints b hb)
  · rcases hmet m hm hleft with hold | rfl
    · exact h.met m hm hold
    · exact hreach
  · rcases hmet m hm hleft with hold | rfl
    · exact hkept b (h.onward m hm hold b hb)
    · -- An empty id is that of no node; any other one is queued.
      by_cases hempty : b = ""
      · exact .inr fun k hk => hempty ▸ hids k (h.nodes k (mem_without.1 hk).1)
      · obtain ⟨k, hk, hkm, hnext⟩ := points_iff_leads.1 hb
        obtain rfl : k = m := List.inj_on_of_nodup_map f.nodup_ids hk hm hkm
        refine .inl (List.mem_append_right _ ?_)
        rw [onwardIds, if_neg (hids k hk)]
        exact List.mem_filter.2 ⟨hnext, by simpa using hempty⟩

/-- A search goes on to its end. -/
theorem IsSearch.run (hids : ∀ n ∈ f.nodes, n.id ≠ "") {rounds : Nat}
    (hrun : f.Searches left queue rounds unmet) (h : f.IsSearch start left queue) :
    f.IsSearch start unmet [] := by
  induction hrun with
  | done => exact h
  | skip gone _ ih => exact ih (h.skip gone)
  | meet there _ ih => exact ih (h.meet hids there)

theorem Points.node (h : f.Points a b) : ∃ n ∈ f.nodes, n.id = a := by
  obtain ⟨n, hn, hid, -⟩ := points_iff_leads.1 h
  exact ⟨n, hn, hid⟩

/-- With nothing queued, what is reached is not left. -/
theorem IsSearch.gone (h : f.IsSearch start unmet []) (hb : ReflTransGen f.Points start b) :
    IsGone unmet b := by
  induction hb with
  | refl => exact h.begun.resolve_left List.not_mem_nil
  | tail _ hab ih =>
    obtain ⟨n, hn, rfl⟩ := hab.node
    have hmet : n ∉ unmet := fun hleft => ih n hleft rfl
    exact (h.onward n hn hmet _ hab).resolve_left List.not_mem_nil

/-- With nothing queued, exactly what is not reached is left. -/
theorem IsSearch.mem_iff (h : f.IsSearch start unmet []) :
    n ∈ unmet ↔ n ∈ f.nodes ∧ ¬ ReflTransGen f.Points start n.id := by
  refine ⟨fun hn => ⟨h.nodes n hn, fun hreach => h.gone hreach n hn rfl⟩, fun ⟨hn, hreach⟩ => ?_⟩
  by_contra hleft
  exact hreach (h.met n hn hleft)

/-- What the search from a start leaves is what the start does not reach. -/
theorem mem_unseen_iff (hids : ∀ n ∈ f.nodes, n.id ≠ "") :
    n ∈ f.unseen f.nodes [start] ↔ n ∈ f.nodes ∧ ¬ ReflTransGen f.Points start n.id := by
  obtain ⟨_, -, hrun⟩ := f.searches_unseen f.nodes [start]
  exact ((f.isSearch_start start).run hids hrun).mem_iff

/-! ## What is reported -/

theorem unreachable_of_start {s : Node} (h : f.start? = some s) : f.unreachable =
    ((f.unseen f.nodes [s.id]).map (·.id)).mergeSort fun a b => decide (a ≤ b) := by
  rw [unreachable, h]

theorem unreachable_of_none (h : f.start? = none) : f.unreachable = [] := by
  rw [unreachable, h]

/-- The nodes out of reach come in order, each of them once. -/
theorem unreachable_sorted (f : Flow) : f.unreachable.Pairwise (· < ·) := by
  cases h : f.start? with
  | none =>
    rw [unreachable_of_none h]
    exact .nil
  | some s =>
    obtain ⟨_, -, hrun⟩ := f.searches_unseen f.nodes [s.id]
    have hnodup : ((f.unseen f.nodes [s.id]).map (·.id)).Nodup :=
      f.nodup_ids.sublist (hrun.sublist.map _)
    rw [unreachable_of_start h]
    have hsorted := @List.pairwise_mergeSort String (fun a b => decide (a ≤ b))
      (fun a b c hab hbc => by simp at *; exact String.le_trans hab hbc)
      (fun a b => by simpa using String.le_total a b) ((f.unseen f.nodes [s.id]).map (·.id))
    refine (hsorted.and ((List.mergeSort_perm _ _).nodup_iff.2 hnodup)).imp ?_
    rintro a b ⟨hle, hne⟩
    exact String.not_le.1 fun hge => hne (String.le_antisymm (by simpa using hle) hge)

theorem mem_unreachable_iff (hids : ∀ n ∈ f.nodes, n.id ≠ "") :
    id ∈ f.unreachable ↔
      (∃ n ∈ f.nodes, n.id = id) ∧
        ∃ s, f.start? = some s ∧ ¬ ReflTransGen f.Points s.id id := by
  cases h : f.start? with
  | none => simp [unreachable_of_none h]
  | some s =>
    rw [unreachable_of_start h, List.mem_mergeSort, List.mem_map]
    simp only [mem_unseen_iff hids, Option.some.injEq, exists_eq_left']
    constructor
    · rintro ⟨n, ⟨hn, hreach⟩, rfl⟩
      exact ⟨⟨n, hn, rfl⟩, hreach⟩
    · rintro ⟨⟨n, hn, rfl⟩, hreach⟩
      exact ⟨n, ⟨hn, hreach⟩, rfl⟩

/-- What is reported as out of reach: nothing without a start; else, once a search that ends has
gone wherever edges and rules lead from the start, all other nodes, in order and each of them
once. -/
theorem unreachable_spec (hids : ∀ n ∈ f.nodes, n.id ≠ "") :
    f.problems.filter (·.code == "ORPHAN_NODE") = f.unreachable.map .unreachable ∧
      (f.start? = none → f.unreachable = []) ∧
      (∀ s, f.start? = some s → ∃ rounds ≤ 1 + f.waysFrom f.nodes, ∃ unmet,
        f.Searches f.nodes [s.id] rounds unmet ∧ f.unreachable.Perm (unmet.map (·.id))) ∧
      (∀ id, id ∈ f.unreachable ↔ (∃ n ∈ f.nodes, n.id = id) ∧
        ∃ s, f.start? = some s ∧ ¬ ReflTransGen f.Points s.id id) ∧
      f.unreachable.Pairwise (· < ·) := by
  refine ⟨orphans_eq f, unreachable_of_none, fun s hs => ?_, fun id => mem_unreachable_iff hids,
    unreachable_sorted f⟩
  obtain ⟨rounds, hle, hrun⟩ := f.searches_unseen f.nodes [s.id]
  exact ⟨rounds, hle, _, hrun, unreachable_of_start hs ▸ List.mergeSort_perm _ _⟩

/-- A start that leads into a ring with a way to no node, and a node that leads there only. -/
def ring : Flow where
  id := "ring"
  nodes := [
    { id := "in", body := .start }, { id := "a", body := .message {} },
    { id := "b", body := .branch { rules := [{ target := some "a" }, { target := some "b" }] } },
    { id := "lone", body := .message {} }]
  edges := [
    { source := "in", target := "a" }, { source := "a", target := "b" },
    { source := "b", target := "nowhere" }, { source := "lone", target := "a" }]

theorem lone_out_of_reach : (∀ n ∈ ring.nodes, n.id ≠ "") ∧ "lone" ∈ ring.unreachable ∧
    ¬ ReflTransGen ring.Points "in" "lone" := by
  have hids : ∀ n ∈ ring.nodes, n.id ≠ "" := by decide
  have hrun : ring.Searches ring.nodes ["in"] 6 [{ id := "lone", body := .message {} }] :=
    .meet rfl (.meet rfl (.meet rfl (.skip rfl (.skip rfl (.skip rfl .done)))))
  have hlone : "lone" ∈ ring.unreachable := by
    rw [unreachable_of_start (s := { id := "in", body := .start }) rfl, ← hrun.unmet_eq]
    simp
  obtain ⟨-, s, hs, hreach⟩ := ((unreachable_spec hids).2.2.2.1 "lone").1 hlone
  obtain rfl : ({ id := "in", body := .start } : Node) = s := Option.some.inj hs
  exact ⟨hids, hlone, hreach⟩

end Parley.Flow
