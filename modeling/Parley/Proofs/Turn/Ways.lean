import Parley.Proofs.Turn.Trail

/-!
# The way from a node

Where a turn has no message in hand, a node leads to the same next one whatever is answered outside
and whatever the variables are (`Flow.onward?`): a question or a branch would wait for a message,
and everything else has one edge to follow. `Flow.ways f k n` are the nodes of the way from `n`, as
far as the first `k`, and `Flow.behind? f k n` is the node behind those, unless the way ends before.

A way may be cut anywhere and gone on with (`ways_add`, `behind?_add`).

A turn that enters a node executes the nodes of the way from there, as many as it may visit. It is
cut short before the node behind them, if there is one, and has come to its end otherwise
(`advance_ways`). The message with which it begins makes no difference, unless the first node is a
question or a branch.
-/

namespace Parley

namespace Flow

/-- Where a node that is entered leads to in the same turn, where no message is in hand. -/
def onward? (f : Flow) (n : Node) : Option Node :=
  match n.body with
  | .start | .call _ | .unknown _ => f.successor? n
  | .message m => if m.awaitInput then none else f.successor? n
  | .attachment _ a => if a.awaitInput then none else f.successor? n
  | .pause p => if p.length.le .zero then f.successor? n else none
  | .question _ | .branch _ | .handover _ | .ticket _ | .ending _ => none

/-- The nodes of the way from a node, at most `k` of them. -/
def ways (f : Flow) : (k : Nat) → Node → List String
  | 0, _ => []
  | k + 1, n => n.id :: (f.onward? n).elim [] (f.ways k)

/-- The node behind the first `k` nodes of the way. -/
def behind? (f : Flow) : (k : Nat) → Node → Option Node
  | 0, n => some n
  | k + 1, n => (f.onward? n).bind (f.behind? k)

variable {f : Flow} {n m : Node} {j k : Nat}

theorem ways_add (f : Flow) (j k : Nat) (n : Node) :
    f.ways (j + k) n = f.ways j n ++ (f.behind? j n).elim [] (f.ways k) := by
  induction j generalizing n with
  | zero => simp [ways, behind?]
  | succ j ih =>
    rw [Nat.succ_add]
    show n.id :: (f.onward? n).elim [] (f.ways (j + k)) =
      n.id :: (f.onward? n).elim [] (f.ways j) ++
        ((f.onward? n).bind (f.behind? j)).elim [] (f.ways k)
    cases f.onward? n with
    | none => rfl
    | some m => exact congrArg (n.id :: ·) (ih m)

theorem behind?_add (f : Flow) (j k : Nat) (n : Node) :
    f.behind? (j + k) n = (f.behind? j n).bind (f.behind? k) := by
  induction j generalizing n with
  | zero => simp [behind?]
  | succ j ih =>
    rw [Nat.succ_add]
    show (f.onward? n).bind (f.behind? (j + k)) =
      ((f.onward? n).bind (f.behind? j)).bind (f.behind? k)
    cases f.onward? n with
    | none => rfl
    | some m => exact ih m

/-- A way goes on from the node behind its first ones. -/
theorem ways_add_of_behind? (h : f.behind? j n = some m) (k : Nat) :
    f.ways (j + k) n = f.ways j n ++ f.ways k m := by
  rw [ways_add, h]
  rfl

theorem behind?_add_of_behind? (h : f.behind? j n = some m) (k : Nat) :
    f.behind? (j + k) n = f.behind? k m := by
  rw [behind?_add, h]
  rfl

theorem length_ways_le (f : Flow) (k : Nat) (n : Node) : (f.ways k n).length ≤ k := by
  induction k generalizing n with
  | zero => exact Nat.le_refl _
  | succ k ih =>
    show ((f.onward? n).elim [] (f.ways k)).length + 1 ≤ k + 1
    cases f.onward? n with
    | none => exact Nat.le_add_left ..
    | some m => exact Nat.succ_le_succ (ih m)

theorem length_ways_succ_pos (f : Flow) (k : Nat) (n : Node) : 1 ≤ (f.ways (k + 1) n).length :=
  Nat.le_add_left ..

theorem ways_prefix (f : Flow) (n : Node) (h : j ≤ k) : f.ways j n <+: f.ways k n := by
  obtain ⟨i, rfl⟩ := Nat.exists_eq_add_of_le h
  rw [ways_add]
  exact List.prefix_append _ _

/-- A way that has come to its end is the whole way. -/
theorem ways_of_behind?_none (h : f.behind? j n = none) (hjk : j ≤ k) :
    f.ways k n = f.ways j n := by
  obtain ⟨i, rfl⟩ := Nat.exists_eq_add_of_le hjk
  rw [ways_add, h]
  exact List.append_nil _

/-- A way that goes on has gone less far than one that has come to its end. -/
theorem lt_of_behind? (hj : f.behind? j n = some m) (hk : f.behind? k n = none) : j < k := by
  by_contra hle
  obtain ⟨i, rfl⟩ := Nat.exists_eq_add_of_le (Nat.le_of_not_lt hle)
  rw [behind?_add, hk] at hj
  cases hj

theorem node?_of_onward? (h : f.onward? n = some m) : f.node? m.id = some m := by
  have hsuccessor : f.successor? n = some m := by
    unfold onward? at h
    split at h <;> first | exact h | cases h | (split at h <;> first | exact h | cases h)
  obtain ⟨e, -, hm⟩ := Option.bind_eq_some_iff.1 hsuccessor
  rw [node?_id hm]
  exact hm

end Flow

namespace Turn

variable {t u : Turn} {n m : Node}

/-! ## Visits -/

/-- A way to go on is that of the flow. -/
def Heads (f : Flow) (n : Node) : Onward → Prop
  | .next id keeps => keeps = false ∧ ∃ m, f.onward? n = some m ∧ m.id = id
  | .wait | .park | .finish => f.onward? n = none

/-- The message that a turn has in hand is none that a node would take. -/
def IsIdleAt (t : Turn) (n : Node) : Prop :=
  t.pending = none ∨ n.kind ≠ .input ∧ n.kind ≠ .condition

/-- A node that goes on to its successor heads there. -/
theorem heads_nextOrFinish (hf : t.flow.onward? n = t.flow.successor? n) (text : Option String)
    (media : Option MediaReference) : Heads t.flow n (t.nextOrFinish n text media).onward := by
  unfold nextOrFinish
  cases hm : t.flow.successor? n with
  | none => exact hf.trans hm
  | some m => exact ⟨rfl, m, hf.trans hm, rfl⟩

theorem heads_afterSaying {await : Bool}
    (hf : t.flow.onward? n = if await then none else t.flow.successor? n) (text : Option String)
    (media : Option MediaReference) :
    Heads t.flow n (t.afterSaying n await text media).onward := by
  unfold afterSaying
  cases hm : t.flow.successor? n with
  | none =>
    rw [hm] at hf
    exact hf.trans (by cases await <;> rfl)
  | some m =>
    rw [hm] at hf
    cases await with
    | true => exact hf
    | false => exact ⟨rfl, m, hf, rfl⟩

theorem visitPause_heads {p : Pause} (hn : n.body = .pause p) :
    Heads t.flow n (t.visitPause n p).2.onward := by
  have honward : t.flow.onward? n = if p.length.le .zero then t.flow.successor? n else none := by
    simp only [Flow.onward?, hn]
  unfold visitPause
  dsimp only
  by_cases hzero : p.length.le .zero = true
  · rw [if_pos hzero] at honward
    rw [if_pos (by simp [hzero])]
    exact heads_nextOrFinish honward _ _
  · rw [if_neg hzero] at honward
    split
    · rename_i hnone
      have hnone : t.flow.successor? n = none := by simpa [hzero] using hnone
      exact heads_nextOrFinish (honward.trans hnone.symm) _ _
    · exact honward

theorem visitCall_heads {c : Call} (hn : n.body = .call c) :
    (t.visitCall n c).Yields
      (Program.Either (fun r => Heads t.flow n r.2.onward) fun _ => True) := by
  have hcalled : ∀ kept : Turn, kept.flow = t.flow →
      Heads t.flow n (kept.nextOrFinish n).onward := by
    intro kept hkept
    rw [← hkept]
    exact heads_nextOrFinish (by simp only [Flow.onward?, hn]) _ _
  unfold visitCall
  refine Program.yields_bind.2 (Program.yields_ofExcept.2 ?_)
  cases t.callRequest c with
  | error e => exact trivial
  | ok request =>
    refine Program.yields_bind.2 (Program.yields_call.2 fun answer => ?_)
    refine Program.yields_pure.2 (hcalled _ ?_)
    cases answer with
    | error e => rfl
    | ok a =>
      dsimp only
      split <;> rfl

theorem visitHandover_heads {h : Handover} (hn : t.flow.onward? n = none) :
    (t.visitHandover h).Yields
      (Program.Either (fun r => Heads t.flow n r.2.onward) fun _ => True) := by
  unfold visitHandover
  dsimp only
  split
  · refine Program.yields_bind.2 (Program.yields_call.2 fun r => ?_)
    rcases r with _ | _ | _
    · exact hn
    · exact Program.yields_bind.2 (Program.yields_call.2 fun r => hn)
    · exact hn
  · exact hn

/-- Without a message that it would take, a node leads where the flow does. -/
theorem visit_heads (h : t.IsIdleAt n) :
    (t.visit n).Yields (Program.Either (fun r => Heads t.flow n r.2.onward) fun _ => True) := by
  unfold visit
  split
  · rename_i hn
    exact heads_nextOrFinish (by simp only [Flow.onward?, hn]) _ _
  · rename_i hn
    exact heads_nextOrFinish (by simp only [Flow.onward?, hn]) _ _
  · rename_i hn
    exact heads_afterSaying (by simp only [Flow.onward?, hn]) _ _
  · rename_i kind a hn
    have hsays : ∀ text media, Heads t.flow n (t.afterSaying n a.awaitInput text media).onward :=
      heads_afterSaying (by simp only [Flow.onward?, hn])
    unfold visitAttachment
    refine Program.yields_bind.2 ((Program.yields_true _).mono fun r _ => ?_)
    rcases r with _ | _ | _
    · exact trivial
    · exact hsays _ _
    · exact hsays _ _
  · rename_i q hn
    have hpending : t.pending = none :=
      h.resolve_right fun hk => hk.1 (by simp only [Node.kind, hn, Body.kind])
    unfold visitQuestion
    rw [hpending]
    show t.flow.onward? n = none
    simp only [Flow.onward?, hn]
  · rename_i b hn
    have hpending : t.pending = none :=
      h.resolve_right fun hk => hk.2 (by simp only [Node.kind, hn, Body.kind])
    unfold visitBranch
    rw [hpending]
    show t.flow.onward? n = none
    simp only [Flow.onward?, hn]
  · rename_i p hn
    exact visitPause_heads hn
  · rename_i c hn
    exact visitCall_heads hn
  · rename_i b hn
    exact visitHandover_heads (by simp only [Flow.onward?, hn])
  · rename_i k hn
    show t.flow.onward? n = none
    simp only [Flow.onward?, hn]
  · rename_i text hn
    show t.flow.onward? n = none
    simp only [Flow.onward?, hn]

/-! ## Steps -/

/-- A step goes on with the way, and without a message; where the way ends, so does the turn. -/
def Treads (t : Turn) (n : Node) : Onto → Prop
  | .ended _ => t.flow.onward? n = none
  | .node u m => t.flow.onward? n = some m ∧ u.pending = none

theorem take_treads {s : Step} (hflow : u.flow = t.flow) (h : Heads t.flow n s.onward) :
    t.Treads n (u.take s) := by
  unfold take
  cases hs : s.onward with
  | wait | park | finish =>
    rw [hs] at h
    exact h
  | next id keeps =>
    rw [hs] at h
    obtain ⟨rfl, m, hm, rfl⟩ := h
    have hnode : (u.withoutInput.say s.text s.media).flow.node? m.id = some m := by
      rw [show (u.withoutInput.say s.text s.media).flow = t.flow from hflow]
      exact Flow.node?_of_onward? hm
    simp only [Onward.keepsInput, Bool.false_eq_true, if_false, hnode]
    exact ⟨hm, rfl⟩

theorem step_treads (h : t.IsIdleAt n) :
    (t.step n false).Yields (Program.Either (t.Treads n) fun _ => True) := by
  have hvisit : ((t.standAt n.id).visit n).Yields fun r =>
      Program.Either (fun r => Heads t.flow n r.2.onward) (fun _ => True) r ∧
        Program.Either ((t.standAt n.id).Visited n) (fun _ => True) r :=
    (visit_heads (t := t.standAt n.id) h).and (visit_yields _ n)
  refine yields_step nofun (fun _ => hvisit.mono ?_) fun _ => trivial
  rintro (e | ⟨u, s⟩) ⟨hheads, hvisited⟩
  · exact trivial
  · exact take_treads hvisited.1.flow hheads

/-! ## Turns -/

/-- A turn that settles has executed the nodes of the way, and enters the node behind them next, if
there is one. -/
def Wends (t : Turn) (left : Nat) (n : Node) : Course → Prop
  | .settled u =>
    nodesOf .executed u.history = nodesOf .executed t.history ++ t.flow.ways (left + 1) n ∧
    match t.flow.behind? (left + 1) n with
    | some m => u.conversation.entersOnResume = true ∧ u.conversation.awaitsInput = true ∧
        u.conversation.node = m.id
    | none => u.conversation.entersOnResume = false
  | .broken _ _ => True

/-- A turn that ends at a node has executed the node, which is the last one of the way. -/
theorem wends_ended (left : Nat) (htreads : t.Treads n (.ended u))
    (hgoes : t.Goes n true (.ended u)) (henters : t.conversation.entersOnResume = false) :
    t.Wends left n (.settled u) := by
  obtain ⟨-, htells, -, hsame, -⟩ := hgoes
  have hend : t.flow.onward? n = none := htreads
  have hways : t.flow.ways (left + 1) n = [n.id] := by simp only [Flow.ways, hend, Option.elim]
  have hbehind : t.flow.behind? (left + 1) n = none := by
    simp only [Flow.behind?, hend, Option.bind_none]
  refine ⟨?_, ?_⟩
  · rw [htells.nodesOf_executed, hways, if_pos rfl]
  · rw [hbehind]
    exact hsame.trans henters

/-- A turn that may visit one node is cut short before the next one. -/
theorem wends_cut (htreads : t.Treads n (.node u m)) (hgoes : t.Goes n true (.node u m)) :
    t.Wends 0 n (.settled (u.cut m.id)) := by
  obtain ⟨-, htells, -⟩ := hgoes
  have hbehind : t.flow.behind? (0 + 1) n = some m := by
    simp only [Flow.behind?, htreads.1, Option.bind_some]
  refine ⟨?_, ?_⟩
  · show nodesOf .executed u.history = _
    rw [htells.nodesOf_executed, if_pos rfl]
    cases h : t.flow.onward? n <;> simp [Flow.ways, h]
  · rw [hbehind]
    exact ⟨rfl, rfl, rfl⟩

/-- A turn goes on with the way from the next node. -/
theorem wends_next {left : Nat} {course : Course} (htreads : t.Treads n (.node u m))
    (hgoes : t.Goes n true (.node u m)) (hwends : (u.record m .entered).Wends left m course) :
    t.Wends (left + 1) n course := by
  cases course with
  | broken v e => trivial
  | settled v =>
    obtain ⟨hs, htells, -⟩ := hgoes
    obtain ⟨hexecuted, hstands⟩ := hwends
    have hflow : (u.record m .entered).flow = t.flow := hs.flow
    rw [hflow] at hexecuted hstands
    have hways : t.flow.ways (left + 1 + 1) n = n.id :: t.flow.ways (left + 1) m := by
      rw [Flow.ways, htreads.1]
      rfl
    have hbehind : t.flow.behind? (left + 1 + 1) n = t.flow.behind? (left + 1) m := by
      rw [Flow.behind?, htreads.1]
      rfl
    refine ⟨?_, ?_⟩
    · have hentered : nodesOf .executed (u.record m .entered).history =
          nodesOf .executed u.history := by
        show nodesOf .executed (u.history ++ [u.entry m .entered]) = _
        rw [nodesOf_append, nodesOf_singleton, if_neg (by simp [entry]), List.append_nil]
      rw [hexecuted, hentered, htells.nodesOf_executed, hways, if_pos rfl, List.append_assoc]
      rfl
    · rw [hbehind]
      exact hstands

/-- Whatever is answered outside, a turn that enters a node without a message that this would take
goes along the way from there. -/
theorem advance_ways (left : Nat) (h : t.IsIdleAt n)
    (henters : t.conversation.entersOnResume = false) :
    (t.advance left n false).Yields (Program.Either (t.Wends left n) fun _ => True) := by
  induction left generalizing t n with
  | zero =>
    refine yields_advance.2 (((step_treads h).and (step_goes t n false)).mono ?_)
    rintro (e | u | ⟨u, m⟩) ⟨htreads, hgoes⟩
    · exact trivial
    · exact wends_ended 0 htreads hgoes henters
    · exact wends_cut htreads hgoes
  | succ left ih =>
    refine yields_advance.2 (((step_treads h).and (step_goes t n false)).mono ?_)
    rintro (e | u | ⟨u, m⟩) ⟨htreads, hgoes⟩
    · exact trivial
    · exact wends_ended _ htreads hgoes henters
    · have hidle : (u.record m .entered).IsIdleAt m := Or.inl htreads.2
      have hsame : (u.record m .entered).conversation.entersOnResume = false :=
        hgoes.2.2.1.trans henters
      refine (ih hidle hsame).mono ?_
      rintro (e | course) hwends
      · exact trivial
      · exact wends_next htreads hgoes hwends

end Turn

end Parley
