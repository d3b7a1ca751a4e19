import Parley.Proofs.Floor.Opening
import Parley.Proofs.Flow.Loops

/-!
# Turns that end by themselves

A turn that is not cut short ends by itself: its conversation is over, or waits for an answer or for
a timer (`Turn.EndsItself`). The message with which a turn begins may lead it past the first two
nodes. From the third one on it goes straight on, and a way that never comes back has at most as
many nodes as the flow.

So a turn may visit two nodes more than the flow has, and ends by itself where the checks report no
loop and no loop leads through a pause of no length (`advance_endsWithin`). The checks do not report
those loops, and a turn that comes to one is cut short however many nodes it may visit
(`advance_cut_of_loop`).
-/

namespace Parley.Turn

open Relation

variable {t u : Turn} {n m : Node}

/-- How many nodes are told to be executed. -/
def executions (t : Turn) : Nat := (nodesOf .executed t.history).length

/-- How a turn comes to its end by itself. The next one does not enter a node that this one was to
visit, and the conversation is over, waits for an answer, or waits for a timer that is wanted. -/
structure EndsItself (u : Turn) : Prop where
  whole : u.conversation.entersOnResume = false
  stops : u.conversation.isActive = false ∧ u.conversation.awaitsInput = false ∨
    u.conversation.isActive = true ∧ u.conversation.awaitsInput = true ∧ u.delay = none ∨
    u.conversation.isActive = true ∧ u.conversation.awaitsInput = false ∧ u.delay.isSome = true

theorem Rests.endsItself (h : u.Rests) (hwhole : u.conversation.entersOnResume = false) :
    u.EndsItself := by
  refine ⟨hwhole, ?_⟩
  cases hactive : u.conversation.isActive with
  | false => exact Or.inl ⟨rfl, h.ended hactive⟩
  | true =>
    have htimed := h.timed hactive
    cases hawaits : u.conversation.awaitsInput with
    | false => exact Or.inr (Or.inr ⟨rfl, rfl, htimed.2 hawaits⟩)
    | true =>
      refine Or.inr (Or.inl ⟨rfl, rfl, ?_⟩)
      rw [← Option.not_isSome_iff_eq_none, htimed, hawaits]
      simp

/-- A step leads to the end of the turn, or on to a node of the flow, and executes one node at most.
The message goes no further than `keeps` says. -/
def Lands (t : Turn) (keeps : Bool) : Onto → Prop
  | .ended u => u.executions ≤ t.executions + 1 ∧ u.EndsItself
  | .node u m => u.executions ≤ t.executions + 1 ∧ u.IsOpen ∧
      u.conversation.entersOnResume = false ∧ u.flow = t.flow ∧ t.flow.node? m.id = some m ∧
      (keeps = false → u.pending = none)

/-- The message stays behind unless a step keeps it, and the next node is one of the flow. -/
def Spends (t : Turn) (keeps : Bool) : Onto → Prop
  | .ended _ => True
  | .node u m => t.flow.node? m.id = some m ∧ (keeps = false → u.pending = none)

theorem take_spends {s : Step} (hflow : u.flow = t.flow) :
    t.Spends s.onward.keepsInput (u.take s) := by
  unfold take
  generalize hw : (if s.onward.keepsInput then u else u.withoutInput) = w
  have hwflow : w.flow = t.flow := by
    rw [← hw, ← hflow]
    split <;> rfl
  have hpending : s.onward.keepsInput = false → w.pending = none := by
    intro hkeeps
    rw [← hw, hkeeps]
    rfl
  cases hs : s.onward with
  | wait | park | finish => trivial
  | next id keeps =>
    rw [hs] at hpending
    dsimp only
    cases hm : (w.say s.text s.media).flow.node? id with
    | none => trivial
    | some m =>
      have hm : t.flow.node? id = some m := by rwa [← hwflow]
      refine ⟨?_, hpending⟩
      rw [Flow.node?_id hm]
      exact hm

/-- A visit hands no message on. -/
theorem visit_spends (t : Turn) (n : Node) :
    (t.visit n).Yields
      (Program.Either (fun r => r.2.onward.keepsInput = false) fun _ => True) := by
  have hnext : ∀ (u : Turn) text media, (u.nextOrFinish n text media).onward.keepsInput = false :=
    fun u text media => by
      unfold nextOrFinish
      cases u.flow.successor? n <;> rfl
  have hsaid : ∀ await text media,
      (t.afterSaying n await text media).onward.keepsInput = false := fun await text media => by
    unfold afterSaying
    cases t.flow.successor? n <;> cases await <;> rfl
  have hdefault : (defaultStep t.flow n).onward.keepsInput = false := by
    unfold defaultStep
    cases (t.flow.defaultEdge? n.id).bind fun e => t.flow.node? e.target <;> rfl
  unfold visit
  split
  · exact hnext _ _ _
  · exact hnext _ _ _
  · exact hsaid _ _ _
  · unfold visitAttachment
    refine Program.yields_bind.2 ((Program.yields_true _).mono fun r _ => ?_)
    rcases r with _ | _ | _
    · exact trivial
    · exact hsaid _ _ _
    · exact hsaid _ _ _
  · unfold visitQuestion
    cases t.pending with
    | none => exact rfl
    | some answer =>
      dsimp only
      split
      · split
        · exact rfl
        · exact hnext _ _ _
      · split
        · exact hnext _ _ _
        · exact rfl
  · unfold visitBranch
    cases t.pending with
    | none => exact rfl
    | some answer =>
      dsimp only
      refine Program.yields_ofExcept.2 ?_
      cases Condition.select _ answer t.vars with
      | error e => exact trivial
      | ok chosen =>
        cases chosen with
        | none => exact hdefault
        | some place =>
          simp only [Except.map]
          cases ruleTarget? t.flow n place.2 with
          | none => exact hdefault
          | some target => exact rfl
  · unfold visitPause
    dsimp only
    split
    · exact hnext _ _ _
    · exact rfl
  · unfold visitCall
    refine Program.yields_bind.2 (Program.yields_ofExcept.2 ?_)
    cases t.callRequest _ with
    | error e => exact trivial
    | ok request => exact Program.yields_bind.2 (Program.yields_call.2 fun r => hnext _ _ _)
  · unfold visitHandover
    dsimp only
    split
    · refine Program.yields_bind.2 (Program.yields_call.2 fun r => ?_)
      rcases r with _ | _ | _
      · exact rfl
      · exact Program.yields_bind.2 (Program.yields_call.2 fun r => rfl)
      · exact rfl
    · exact rfl
  · exact rfl
  · exact rfl

/-- Only a node that is passed hands the message on. -/
theorem step_spends (t : Turn) (n : Node) (resuming : Bool) :
    (t.step n resuming).Yields (Program.Either (t.Spends resuming) fun _ => True) := by
  have hless : ∀ keeps onto, t.Spends keeps onto → (keeps = true → resuming = true) →
      t.Spends resuming onto := by
    rintro keeps (u | ⟨u, m⟩) hspends hkeeps
    · trivial
    · refine ⟨hspends.1, fun hresuming => hspends.2 ?_⟩
      cases keeps with
      | false => rfl
      | true => exact absurd (hkeeps rfl) (by rw [hresuming]; exact Bool.false_ne_true)
  refine yields_step (fun hpassed => ?_) (fun _ => ?_) fun _ => trivial
  · have hresuming : resuming = true := by
      cases resuming with
      | false => cases hpassed
      | true => rfl
    exact hless _ _ (take_spends (t := t) (u := t.standAt n.id) rfl) fun _ => hresuming
  · refine ((visit_spends (t.standAt n.id) n).and (visit_yields (t.standAt n.id) n)).mono ?_
    rintro (e | ⟨u, s⟩) ⟨hkeeps, hvisited⟩
    · exact trivial
    · refine hless _ _ (take_spends (t := t) (u := u.record n .executed none s.text) (s := s)
        hvisited.1.flow) fun h => ?_
      rw [show s.onward.keepsInput = false from hkeeps] at h
      cases h

theorem Tells.executions_le {executed : Bool} (h : t.Tells n executed u) :
    u.executions ≤ t.executions + 1 := by
  unfold executions
  rw [h.nodesOf_executed, List.length_append]
  cases executed <;> simp

/-- One step of a turn under way. -/
theorem step_lands (ho : t.IsOpen) (hwhole : t.conversation.entersOnResume = false) (n : Node)
    (resuming : Bool) :
    (t.step n resuming).Yields (Program.Either (t.Lands resuming) fun _ => True) := by
  refine (((step_yields ho n resuming).and (step_goes t n resuming)).and
    (step_spends t n resuming)).mono ?_
  rintro (e | u | ⟨u, m⟩) ⟨⟨hfine, hgoes⟩, hspends⟩
  · exact trivial
  · obtain ⟨-, htells, -, hsame, -⟩ := hgoes
    exact ⟨htells.executions_le, hfine.2.1.endsItself (hsame.trans hwhole)⟩
  · obtain ⟨hs, htells, hsame, -⟩ := hgoes
    exact ⟨htells.executions_le, hfine.2.1, hsame.trans hwhole, hs.flow, hspends⟩

/-! ## Turns -/

/-- A turn ends by itself unless it breaks off, and executes at most `k` nodes either way. -/
def EndsWithin (t : Turn) (k : Nat) : Course → Prop
  | .settled u => u.executions ≤ t.executions + k ∧ u.EndsItself
  | .broken u _ => u.executions ≤ t.executions + k

theorem EndsWithin.mono {j k : Nat} {course : Course} (h : t.EndsWithin j course) (hjk : j ≤ k) :
    t.EndsWithin k course := by
  cases course with
  | settled u => exact ⟨h.1.trans (Nat.add_le_add_left hjk _), h.2⟩
  | broken u e => exact h.trans (Nat.add_le_add_left hjk _)

/-- A turn ends one node later than it does from the next one on. -/
theorem endsWithin_next {k : Nat} {course : Course} (hu : u.executions ≤ t.executions + 1)
    (h : (u.record m .entered).EndsWithin k course) : t.EndsWithin (k + 1) course := by
  have hentered : (u.record m .entered).executions = u.executions := by
    show (nodesOf .executed (u.history ++ [u.entry m .entered])).length = _
    rw [nodesOf_append, nodesOf_singleton, if_neg (by simp [entry]), List.append_nil]
    rfl
  have hle : (u.record m .entered).executions + k ≤ t.executions + (k + 1) := by omega
  cases course with
  | settled v => exact ⟨h.1.trans hle, h.2⟩
  | broken v e => exact Nat.le_trans h hle

/-- A turn that ends with its first step, or from the next node on, where there is one to visit. -/
theorem endsWithin_step {left k : Nat} {resuming : Bool} {R : Onto → Prop} (ho : t.IsOpen)
    (hwhole : t.conversation.entersOnResume = false)
    (hstep : (t.step n resuming).Yields (Program.Either R fun _ => True))
    (hnext : ∀ u m, t.Lands resuming (.node u m) → R (.node u m) →
      ∃ l, left = l + 1 ∧ ((u.record m .entered).advance l m false).Yields
        (Program.Either ((u.record m .entered).EndsWithin k) fun _ => False)) :
    (t.advance left n resuming).Yields
      (Program.Either (t.EndsWithin (k + 1)) fun _ => False) := by
  refine yields_advance.2 (((step_lands ho hwhole n resuming).and hstep).mono ?_)
  rintro (e | u | ⟨u, m⟩) ⟨hlands, hr⟩
  · exact Nat.le_add_right _ _
  · exact ⟨hlands.1.trans (by omega), hlands.2⟩
  · obtain ⟨l, rfl, hends⟩ := hnext u m hlands hr
    refine hends.mono ?_
    rintro (e | course) hends
    · exact hends
    · exact endsWithin_next hlands.1 hends

/-- A turn that goes straight on ends with the way. -/
theorem advance_endsWithin_way {left k : Nat} (ho : t.IsOpen)
    (hwhole : t.conversation.entersOnResume = false) (hidle : t.IsIdleAt n)
    (hway : t.flow.behind? k n = none) (hk : k ≤ left + 1) :
    (t.advance left n false).Yields (Program.Either (t.EndsWithin k) fun _ => False) := by
  induction k generalizing t n left with
  | zero => cases hway
  | succ k ih =>
    refine endsWithin_step ho hwhole (step_treads hidle) fun u m hlands htreads => ?_
    obtain ⟨-, hopen, hwhole, hflow, -, -⟩ := hlands
    have hrest : t.flow.behind? k m = none := by
      have : (t.flow.onward? n).bind (t.flow.behind? k) = none := hway
      rwa [htreads.1] at this
    have hleft : left ≠ 0 := by
      rintro rfl
      obtain rfl : k = 0 := by omega
      cases hrest
    obtain ⟨l, rfl⟩ := Nat.exists_eq_succ_of_ne_zero hleft
    refine ⟨l, rfl, ih (t := u.record m .entered) hopen hwhole (Or.inl htreads.2) ?_ (by omega)⟩
    rw [show (u.record m .entered).flow = t.flow from hflow]
    exact hrest

/-- A turn of a flow in which no loop is reported, and no loop leads through a pause of no length,
ends by itself after two nodes more than the flow has, unless a node fails before. It is cut short
only if it may not visit that many. -/
theorem advance_endsWithin {left : Nat} (ho : t.IsOpen)
    (hwhole : t.conversation.entersOnResume = false)
    (hreport : ∀ id, Problem.idleLoop id ∉ t.flow.problems)
    (hpauses : ∀ z : Node, z.IsEmptyPause → ¬ TransGen t.flow.PassesTo z z)
    (hleft : t.flow.nodes.length + 2 ≤ left + 1) (n : Node) (resuming : Bool) :
    (t.advance left n resuming).Yields
      (Program.Either (t.EndsWithin (t.flow.nodes.length + 2)) fun _ => False) := by
  have hloops : t.flow.idleLoops = [] := by
    refine List.eq_nil_iff_forall_not_mem.2 fun id hid => hreport id ?_
    exact List.mem_append_right _ (List.mem_map_of_mem hid)
  have hends : ∀ m, t.flow.node? m.id = some m →
      t.flow.behind? t.flow.nodes.length m = none := fun m hm =>
    Flow.behind?_eq_none (fun n hn => Flow.not_loops hloops hpauses hn) hm
  -- The first node may hand the message on to the second one, and this one takes it.
  refine endsWithin_step ho hwhole (step_lands ho hwhole n resuming) fun u m hlands _ => ?_
  obtain ⟨-, hopen, hwhole, hsame, hm, -⟩ := hlands
  have hnonempty : 1 ≤ t.flow.nodes.length := List.length_pos_of_mem (Flow.node?_mem hm)
  obtain ⟨l, rfl⟩ := Nat.exists_eq_add_of_le' (show 1 ≤ left by omega)
  refine ⟨l, rfl, endsWithin_step (t := u.record m .entered) hopen hwhole
    (step_lands (t := u.record m .entered) hopen hwhole m false) fun v w hlands _ => ?_⟩
  obtain ⟨-, hopen, hwhole, hflow, hw, hspent⟩ := hlands
  obtain ⟨l, rfl⟩ := Nat.exists_eq_add_of_le' (show 1 ≤ l by omega)
  refine ⟨l, rfl, advance_endsWithin_way (t := v.record w .entered) hopen hwhole
    (Or.inl (hspent rfl)) ?_ (by omega)⟩
  rw [show (u.record m .entered).flow = t.flow from hsame] at hflow hw
  rw [show (v.record w .entered).flow = t.flow from hflow]
  exact hends w hw

/-- The first turn of the visitor with a flow. -/
def opening (f : Flow) : Turn where
  conversation :=
    { id := "talk", contact := visitor, flowId := f.id, node := "start"
      createdAt := Rehearsal.Clock.usualStart, updatedAt := Rehearsal.Clock.usualStart }
  flow := f
  version := 0
  isNew := true
  start := Rehearsal.Clock.usualStart

/-- A pause of no length that no way comes back to does no harm. -/
theorem opening_pausing_endsWithin :
    ((opening (pausing .zero)).advance 24 { id := "start", body := .start } false).Yields
      (Program.Either ((opening (pausing .zero)).EndsWithin 6) fun _ => False) := by
  have hends : ∀ z ∈ (pausing .zero).nodes, (pausing .zero).behind? 4 z = none := by decide
  have hpauses : ∀ z : Node, z.IsEmptyPause → ¬ TransGen (pausing .zero).PassesTo z z := by
    intro z _ hloop
    obtain ⟨b, -, hbz⟩ := TransGen.tail'_iff.1 hloop
    obtain ⟨c, hc⟩ := Flow.behind?_of_loop .refl hloop 4
    rw [hends z (Flow.node?_mem hbz.node?)] at hc
    cases hc
  have hproblems : (pausing .zero).problems = [] := by cbv
  have hreport : ∀ id, Problem.idleLoop id ∉ (pausing .zero).problems := by
    rw [hproblems]
    exact fun id => List.not_mem_nil
  exact advance_endsWithin (t := opening (pausing .zero)) ⟨rfl, rfl⟩ rfl hreport hpauses
    (by decide) _ false

/-- A turn that comes to a loop is cut short, however many nodes it may visit. -/
theorem advance_cut_of_loop (hidle : t.IsIdleAt n) (hwhole : t.conversation.entersOnResume = false)
    (hnm : ReflTransGen t.flow.PassesTo n m) (hloop : TransGen t.flow.PassesTo m m) (left : Nat) :
    (t.advance left n false).Yields (Program.Either
      (fun | .settled u => u.conversation.entersOnResume = true | .broken _ _ => True)
      fun _ => True) := by
  refine (advance_ways left hidle hwhole).mono ?_
  rintro (e | u | ⟨u, e⟩) hwends
  · exact trivial
  · obtain ⟨c, hc⟩ := Flow.behind?_of_loop hnm hloop (left + 1)
    have hstands := hwends.2
    rw [hc] at hstands
    exact hstands.1
  · exact trivial

/-- A flow whose pause of no length follows itself. -/
def spinning : Flow where
  id := "spinning"
  nodes := [
    { id := "start", body := .start },
    { id := "pause", body := .pause { amount := some .zero } }]
  edges := [
    { source := "start", target := "pause" },
    { source := "pause", target := "pause" }]
  nodup_ids := by simp

/-- Nothing is reported of the flow, and its turns are all cut short. -/
theorem opening_spinning_cut : spinning.problems = [] ∧ ∀ left,
    ((opening spinning).advance left { id := "start", body := .start } false).Yields (Program.Either
      (fun | .settled u => u.conversation.entersOnResume = true | .broken _ _ => True)
      fun _ => True) := by
  let pause : Node := { id := "pause", body := .pause { amount := some .zero } }
  have hfirst : spinning.PassesTo { id := "start", body := .start } pause := rfl
  have hloop : spinning.PassesTo pause pause := by
    unfold Flow.PassesTo
    decide
  refine ⟨by cbv, fun left => ?_⟩
  exact advance_cut_of_loop (t := opening spinning) (Or.inl rfl) rfl (.single hfirst)
    (.single hloop) left

end Parley.Turn
