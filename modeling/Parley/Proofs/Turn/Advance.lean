import Parley.Proofs.Turn.Visit
import Parley.Turn.Advance

/-!
# Where a conversation stands after a turn

`Conversation.StandsIn c f` says how a conversation of the flow `f` may stand between two turns. An
active one stands at a node that the start leads to. It waits for an answer where that is possible,
or was cut short before a node that it enters next, or waits for a timer where that is possible.

A turn that begins at such a node with an active conversation and no delay comes to an end with a
conversation of that kind, and has a delay exactly when it waits for a timer
(`advance_yields`). One visit gives it (`take_fine`, `step_yields`), and the turn is an induction on
how many visits are left.
-/

namespace Parley

/-- How a conversation may stand between two turns of a flow. -/
structure Conversation.StandsIn (c : Conversation) (f : Flow) : Prop where
  /-- A conversation that is over waits for nothing. -/
  ended : c.isActive = false → c.awaitsInput = false
  /-- An active one stands at a node that the start leads to. -/
  placed : c.isActive = true → (∃ n, f.node? c.node = some n) ∧ f.Reaches c.node
  /-- One that waits for no answer waits for a timer. -/
  parked : c.isActive = true → c.awaitsInput = false →
    c.entersOnResume = false ∧ ∃ n, f.node? c.node = some n ∧ f.CanPark n
  /-- One that waits for an answer does so where that is possible, or enters its node next. -/
  waiting : c.isActive = true → c.awaitsInput = true → c.entersOnResume = false →
    ∃ n, f.node? c.node = some n ∧ f.CanAwait n

namespace Turn

/-- The other turn belongs to the same conversation, flow and version. -/
structure Same (t u : Turn) : Prop where
  id : u.conversation.id = t.conversation.id
  contact : u.conversation.contact = t.conversation.contact
  flowId : u.conversation.flowId = t.conversation.flowId
  flow : u.flow = t.flow
  version : u.version = t.version
  isNew : u.isNew = t.isNew

/-- The conversation is not over, and no timer is wanted so far. -/
def IsOpen (t : Turn) : Prop := t.conversation.isActive = true ∧ t.delay = none

/-- The turn may visit a node: the start leads there, and it is entered in this turn if ever. -/
structure StandsAt (t : Turn) (n : Node) : Prop where
  enters : t.conversation.entersOnResume = false
  node : t.flow.node? n.id = some n
  reaches : t.flow.Reaches n.id

/-- The turn is at its end: it has a delay exactly when its conversation waits for a timer. -/
structure Rests (t : Turn) : Prop where
  ended : t.conversation.isActive = false → t.conversation.awaitsInput = false
  timed : t.conversation.isActive = true →
    (t.delay.isSome ↔ t.conversation.awaitsInput = false)

/-- What a step may come to. -/
def Fine (t : Turn) (n : Node) : Onto → Prop
  | .ended u => t.Same u ∧ u.Rests ∧ (t.StandsAt n → u.conversation.StandsIn t.flow)
  | .node u m => t.Same u ∧ u.IsOpen ∧ (t.StandsAt n → u.StandsAt m)

variable {t u v : Turn} {n m : Node}

theorem Same.trans (h : t.Same u) (k : u.Same v) : t.Same v where
  id := k.id.trans h.id
  contact := k.contact.trans h.contact
  flowId := k.flowId.trans h.flowId
  flow := k.flow.trans h.flow
  version := k.version.trans h.version
  isNew := k.isNew.trans h.isNew

theorem Alike.same (h : t.Alike u) : t.Same u where
  id := by rw [h.conversation]
  contact := by rw [h.conversation]
  flowId := by rw [h.conversation]
  flow := h.flow
  version := h.version
  isNew := h.isNew

/-- A turn that ends the conversation where it stands. -/
theorem fine_ended (h : t.Alike u) : t.Fine n (.ended u.ended) := by
  have hs := h.same
  refine ⟨⟨hs.id, hs.contact, hs.flowId, hs.flow, hs.version, hs.isNew⟩,
    ⟨fun _ => rfl, fun ha => by cases ha⟩, fun _ => ⟨fun _ => rfl, ?_, ?_, ?_⟩⟩ <;>
    intro ha <;> cases ha

/-- What a step comes to that is taken by a turn. -/
inductive Taken (t : Turn) : Onward → Onto → Prop
  | wait : Taken t .wait (.ended t.awaiting)
  | park : Taken t .park (.ended t.parked)
  | finish : Taken t .finish (.ended t.ended)
  | next {id : String} {keeps : Bool} {n : Node} (h : t.flow.node? id = some n) :
    Taken t (.next id keeps) (.node t n)
  | astray {id : String} {keeps : Bool} (h : t.flow.node? id = none) :
    Taken t (.next id keeps) (.ended t.ended)

theorem take_taken (t : Turn) (s : Step) :
    ∃ u, t.Alike u ∧ u.delay = t.delay ∧ u.history = t.history ∧
      u.Taken s.onward (t.take s) := by
  unfold take
  generalize hw : (if s.onward.keepsInput then t else t.withoutInput) = w
  have ha : t.Alike w ∧ w.delay = t.delay ∧ w.history = t.history := by
    rw [← hw]
    split
    · exact ⟨.refl t, rfl, rfl⟩
    · exact ⟨alike_withoutInput t, rfl, rfl⟩
  refine ⟨w.say s.text s.media, ha.1.trans ⟨rfl, rfl, rfl, rfl⟩, ha.2.1, ha.2.2, ?_⟩
  cases s.onward with
  | wait => exact .wait
  | park => exact .park
  | finish => exact .finish
  | next id keeps =>
    simp only
    cases hm : (w.say s.text s.media).flow.node? id with
    | none => exact .astray hm
    | some n => exact .next hm

/-- A step that fits the node that was visited is taken well. -/
theorem take_fine {r : Turn × Step} (h : t.Visited n r) (ho : t.IsOpen)
    (hn : t.conversation.node = n.id) : t.Fine n (r.1.take r.2) := by
  obtain ⟨u, s⟩ := r
  obtain ⟨ha, hf⟩ := h
  obtain ⟨w, hw, hd, -, htaken⟩ := take_taken u s
  have hw : t.Alike w := ha.trans hw
  have hs := hw.same
  have hc := hw.conversation
  have hact : w.conversation.isActive = true := by rw [hc]; exact ho.1
  have hnode : w.conversation.node = n.id := by rw [hc]; exact hn
  simp only at hf htaken ⊢
  generalize s.onward = onward at hf htaken
  generalize u.take s = onto at htaken ⊢
  cases htaken with
  | next hm =>
    rename_i id keeps m
    obtain ⟨hud, hid⟩ := hf
    have hmid := Flow.node?_id hm
    refine ⟨hs, ⟨hact, by rw [hd, hud]; exact ho.2⟩, fun st => ⟨?_, by rw [hmid]; exact hm, ?_⟩⟩
    · rw [hc]
      exact st.enters
    · rw [hw.flow, hmid]
      exact st.reaches.tail ⟨n, Flow.node?_mem st.node, rfl, hid⟩
  | wait =>
    obtain ⟨hud, hwait⟩ := hf
    refine ⟨⟨hs.id, hs.contact, hs.flowId, hs.flow, hs.version, hs.isNew⟩, ⟨?_, ?_⟩,
      fun st => ⟨?_, ?_, ?_, ?_⟩⟩ <;> simp only [awaiting, hact, hnode]
    · rintro ⟨⟩
    · rw [hd, hud, ho.2]; simp
    · rintro ⟨⟩
    · exact fun _ => ⟨⟨n, st.node⟩, st.reaches⟩
    · rintro - ⟨⟩
    · exact fun _ _ _ => ⟨n, st.node, hwait⟩
  | park =>
    obtain ⟨hud, hpark⟩ := hf
    refine ⟨⟨hs.id, hs.contact, hs.flowId, hs.flow, hs.version, hs.isNew⟩, ⟨?_, ?_⟩,
      fun st => ⟨?_, ?_, ?_, ?_⟩⟩ <;> simp only [parked, hact, hnode]
    · rintro ⟨⟩
    · rw [hd]; simpa using hud
    · rintro ⟨⟩
    · exact fun _ => ⟨⟨n, st.node⟩, st.reaches⟩
    · exact fun _ _ => ⟨by rw [hc]; exact st.enters, n, st.node, hpark⟩
    · rintro - ⟨⟩
  | finish => exact fine_ended hw
  | astray hm => exact fine_ended hw

/-- Passing a node goes on to the next one or ends the conversation. -/
theorem pass_visited (t : Turn) (n : Node) : t.Visited n (t, t.pass n) := by
  refine ⟨.refl t, ?_⟩
  unfold pass
  split
  · rename_i m hm
    exact ⟨rfl, Flow.successorIds_of_successor? hm⟩
  · exact rfl

/-- One step of an open turn. -/
theorem step_yields (ho : t.IsOpen) (n : Node) (resuming : Bool) :
    (t.step n resuming).Yields (Program.Either (t.Fine n) fun _ => True) := by
  have back : ∀ r, (t.standAt n.id).Fine n r → t.Fine n r := by
    intro r hr
    cases r with
    | ended u =>
      obtain ⟨h, hrest, hst⟩ := hr
      exact ⟨⟨h.id, h.contact, h.flowId, h.flow, h.version, h.isNew⟩, hrest,
        fun st => hst ⟨st.enters, st.node, st.reaches⟩⟩
    | node u m =>
      obtain ⟨h, hopen, hst⟩ := hr
      exact ⟨⟨h.id, h.contact, h.flowId, h.flow, h.version, h.isNew⟩, hopen,
        fun st => hst ⟨st.enters, st.node, st.reaches⟩⟩
  unfold step
  simp only
  split
  · exact back _ (take_fine (pass_visited _ n) ho rfl)
  · have after : ∀ p : Visit, p.Yields (Program.Either ((t.standAt n.id).Visited n) fun _ => True) →
        (p >>= fun r => pure ((r.1.record n .executed none r.2.text).take r.2)).Yields
          (Program.Either (t.Fine n) fun _ => True) := by
      intro p hp
      refine Program.yields_bind.2 (hp.mono fun r hr => ?_)
      cases r with
      | error e => exact trivial
      | ok r =>
        exact back _ (take_fine (r := (r.1.record n .executed none r.2.text, r.2))
          ⟨hr.1.trans (alike_record ..), hr.2⟩ ho rfl)
    split
    · exact after _ (visit_yields _ n)
    · exact after _ (enter_yields _ n)

/-- What a turn comes to, seen from its first step on. -/
def Onwards (t : Turn) (left : Nat) (n : Node) (Q : Except Failure Course → Prop) :
    Except Failure Onto → Prop
  | .error e => Q (.ok (.broken (t.standAt n.id) e))
  | .ok (.ended u) => Q (.ok (.settled u))
  | .ok (.node u m) => match left with
    | 0 => Q (.ok (.settled (u.cut m.id)))
    | left + 1 => ((u.record m .entered).advance left m false).Yields Q

theorem yields_advance {left : Nat} {resuming : Bool} {Q : Except Failure Course → Prop} :
    (t.advance left n resuming).Yields Q ↔ (t.step n resuming).Yields (t.Onwards left n Q) := by
  unfold advance
  rw [Program.yields_bind, Program.yields_attempt]
  refine ⟨fun h => h.mono ?_, fun h => h.mono ?_⟩ <;> rintro (e | u | ⟨u, m⟩) hr <;>
    cases left <;> exact hr

/-- What a whole turn may come to. -/
def Settled (t : Turn) (n : Node) : Course → Prop
  | .settled u => t.Same u ∧ u.Rests ∧ (t.StandsAt n → u.conversation.StandsIn t.flow)
  | .broken _ _ => True

/-- An open turn that settles belongs to the conversation with which it began, which stands as it
may once it stood so before. -/
theorem advance_yields (left : Nat) (ho : t.IsOpen) (n : Node) (resuming : Bool) :
    (t.advance left n resuming).Yields (Program.Either (t.Settled n) fun _ => True) := by
  induction left generalizing t n resuming with
  | zero =>
    refine yields_advance.2 ((step_yields ho n resuming).mono ?_)
    rintro (e | u | ⟨u, m⟩) hr
    · exact trivial
    · exact hr
    · obtain ⟨hs, hopen, hst⟩ := hr
      refine ⟨⟨hs.id, hs.contact, hs.flowId, hs.flow, hs.version, hs.isNew⟩, ⟨?_, ?_⟩,
        fun st => ?_⟩
      · intro ha; rw [show (u.cut m.id).conversation.isActive = true from hopen.1] at ha; cases ha
      · intro _
        rw [show (u.cut m.id).delay = none from hopen.2]
        simp [cut]
      · obtain ⟨-, hnode, hreach⟩ := hst st
        rw [← hs.flow]
        refine ⟨?_, fun _ => ⟨⟨m, hnode⟩, hreach⟩, ?_, ?_⟩
        · intro ha; rw [show (u.cut m.id).conversation.isActive = true from hopen.1] at ha; cases ha
        · rintro - ⟨⟩
        · rintro - - ⟨⟩
  | succ left ih =>
    refine yields_advance.2 ((step_yields ho n resuming).mono ?_)
    rintro (e | u | ⟨u, m⟩) hr
    · exact trivial
    · exact hr
    · obtain ⟨hs, hopen, hst⟩ := hr
      have hrec : u.Same (u.record m .entered) := (alike_record u m .entered none none none).same
      refine (ih (t := u.record m .entered) hopen m false).mono ?_
      rintro (e | v | ⟨v, e⟩) hv
      · exact trivial
      · obtain ⟨hs', hrest, hst'⟩ := hv
        refine ⟨hs.trans (hrec.trans hs'), hrest, fun st => ?_⟩
        obtain ⟨henters, hnode, hreach⟩ := hst st
        have := hst' ⟨henters, hnode, hreach⟩
        rwa [hrec.flow, hs.flow] at this
      · exact trivial

end Turn

end Parley
