import Parley.Proofs.Turn.Advance

/-!
# What a turn tells of a node

A visit to a node tells of the rule that held there, if one did, and the turn then tells that the
node was executed (`Turn.Tells`). Of a node that is only passed it tells nothing. Whatever is told
is told of the conversation of the turn and of the node at which it stands.

`step_goes` says so of one step, with where the step leads: the turn ends where it stands, or goes
on at a node one step away (`Turn.Goes`).
-/

namespace Parley

/-- The nodes at which something happened, in order. -/
def nodesOf (a : Action) (es : List Entry) : List String := (es.filter (·.action = a)).map (·.node)

@[simp] theorem nodesOf_nil (a : Action) : nodesOf a [] = [] := rfl

@[simp] theorem nodesOf_append (a : Action) (es es' : List Entry) :
    nodesOf a (es ++ es') = nodesOf a es ++ nodesOf a es' := by
  simp [nodesOf]

theorem nodesOf_singleton (a : Action) (e : Entry) :
    nodesOf a [e] = if e.action = a then [e.node] else [] := by
  unfold nodesOf
  by_cases h : e.action = a <;> simp [h]

namespace Turn

variable {t u v : Turn} {n m : Node}

/-- An entry of a conversation that a node was executed, or that a rule held there. -/
structure IsAbout (id : String) (n : Node) (e : Entry) : Prop where
  own : e.conversation = id
  node : e.node = n.id
  action : e.action = .executed ∨ e.action = .conditionMet

/-- The other turn tells what happened at a node besides, and that the node was executed where it
was. -/
def Tells (t : Turn) (n : Node) (executed : Bool) (u : Turn) : Prop :=
  ∃ told, u.history = t.history ++ told ∧ (∀ e ∈ told, IsAbout t.conversation.id n e) ∧
    nodesOf .executed told = if executed then [n.id] else []

theorem tells_of_history (h : u.history = t.history) : t.Tells n false u :=
  ⟨[], by rw [h, List.append_nil], (fun e he => by cases he), rfl⟩

theorem Tells.of_history {executed : Bool} (h : t.Tells n executed u)
    (hv : v.history = u.history) : t.Tells n executed v := by
  obtain ⟨told, hu, habout⟩ := h
  exact ⟨told, hv.trans hu, habout⟩

/-- A node is told to be executed where it was. -/
theorem Tells.nodesOf_executed {executed : Bool} (h : t.Tells n executed u) :
    nodesOf .executed u.history =
      nodesOf .executed t.history ++ if executed then [n.id] else [] := by
  obtain ⟨told, hu, -, hexecuted⟩ := h
  rw [hu, nodesOf_append, hexecuted]

/-- A rule held at a node. -/
theorem tells_conditionMet (hid : u.conversation.id = t.conversation.id)
    (hhistory : u.history = t.history) (input output label : Option String) :
    t.Tells n false (u.record n .conditionMet input output label) := by
  refine ⟨[u.entry n .conditionMet input output label], by simp [record, hhistory], fun e he => ?_,
    rfl⟩
  rw [List.mem_singleton.1 he]
  exact ⟨hid, rfl, Or.inr rfl⟩

/-- A node that was visited was executed. -/
theorem Tells.executed (h : t.Tells n false u) (hid : u.conversation.id = t.conversation.id)
    (input output label : Option String) :
    t.Tells n true (u.record n .executed input output label) := by
  obtain ⟨told, hu, habout, hnone⟩ := h
  refine ⟨told ++ [u.entry n .executed input output label], by simp [record, hu],
    fun e he => ?_, ?_⟩
  · rcases List.mem_append.1 he with he | he
    · exact habout e he
    · rw [List.mem_singleton.1 he]
      exact ⟨hid, rfl, Or.inl rfl⟩
  · rw [nodesOf_append, hnone, nodesOf_singleton, if_pos rfl]
    rfl

/-! ## Visits -/

/-- What a visit tells. -/
def Noted (t : Turn) (n : Node) (r : Turn × Step) : Prop := t.Tells n false r.1

theorem visitAttachment_noted (t : Turn) (n : Node) (kind : AttachmentKind) (a : Attachment) :
    (t.visitAttachment n kind a).Yields (Program.Either (t.Noted n) fun _ => True) := by
  unfold visitAttachment
  refine Program.yields_bind.2 ((Program.yields_true _).mono fun r _ => ?_)
  cases r with
  | error e => exact trivial
  | ok media => cases media <;> exact tells_of_history rfl

theorem visitQuestion_noted (t : Turn) (n : Node) (q : Question) :
    t.Noted n (t.visitQuestion n q) := by
  refine tells_of_history ?_
  unfold visitQuestion
  cases t.pending with
  | none => rfl
  | some answer =>
    dsimp only
    split
    · split
      · rfl
      · cases given q.variable_ <;> rfl
    · split
      · cases given q.variable_ <;> rfl
      · rfl

theorem visitBranch_noted (t : Turn) (n : Node) (b : Branch) :
    Program.Either (t.Noted n) (fun _ => True) (t.visitBranch n b) := by
  unfold visitBranch
  cases t.pending with
  | none => exact tells_of_history rfl
  | some answer =>
    dsimp only
    cases Condition.select b.rules answer t.vars with
    | error e => exact trivial
    | ok chosen =>
      cases chosen with
      | none => exact tells_of_history rfl
      | some place =>
        have hnoted : ∀ output : String, t.Tells n false (t.withoutInput.record n .conditionMet
            (some answer) (some output) place.2.caption) := fun output =>
          tells_conditionMet rfl rfl _ _ _
        simp only [Except.map]
        cases ruleTarget? t.flow n place.2 <;> exact hnoted _

theorem visitPause_noted (t : Turn) (n : Node) (p : Pause) : t.Noted n (t.visitPause n p) := by
  unfold visitPause
  dsimp only
  split <;> exact tells_of_history rfl

theorem visitCall_noted (t : Turn) (n : Node) (c : Call) :
    (t.visitCall n c).Yields (Program.Either (t.Noted n) fun _ => True) := by
  unfold visitCall
  refine Program.yields_bind.2 (Program.yields_ofExcept.2 ?_)
  cases t.callRequest c with
  | error e => exact trivial
  | ok request =>
    refine Program.yields_bind.2 (Program.yields_call.2 fun answer => ?_)
    cases answer with
    | error e => exact tells_of_history rfl
    | ok a =>
      refine Program.yields_pure.2 (tells_of_history ?_)
      show (if _ then _ else _ : Turn).history = t.history
      split <;> rfl

theorem visitHandover_noted (t : Turn) (n : Node) (h : Handover) :
    (t.visitHandover h).Yields (Program.Either (t.Noted n) fun _ => True) := by
  have told : ∀ s : Step, t.Noted n (t.withoutInput, s) := fun s => tells_of_history rfl
  unfold visitHandover
  dsimp only
  split
  · refine Program.yields_bind.2 (Program.yields_call.2 fun r => ?_)
    rcases r with _ | _ | _
    · exact told _
    · exact Program.yields_bind.2 (Program.yields_call.2 fun r => told _)
    · exact told _
  · exact told _

theorem visit_noted (t : Turn) (n : Node) :
    (t.visit n).Yields (Program.Either (t.Noted n) fun _ => True) := by
  unfold visit
  split
  · exact tells_of_history rfl
  · exact tells_of_history rfl
  · exact tells_of_history rfl
  · exact visitAttachment_noted ..
  · exact visitQuestion_noted ..
  · exact Program.yields_ofExcept.2 (visitBranch_noted ..)
  · exact visitPause_noted ..
  · exact visitCall_noted ..
  · exact visitHandover_noted ..
  · exact tells_of_history rfl
  · exact tells_of_history rfl

theorem enter_noted (t : Turn) (n : Node) :
    (t.enter n).Yields (Program.Either (t.Noted n) fun _ => True) := by
  unfold enter
  refine Program.yields_bind.2 (Program.yields_bind.2 (Program.yields_call.2 fun r => ?_))
  cases r with
  | error e => exact trivial
  | ok _ => exact visit_noted t n

/-! ## Steps -/

/-- Whether a step visits its node, rather than passing it. -/
def visits (n : Node) (resuming : Bool) : Bool := !resuming || isAskedAgain n

/-- What a step comes to is what passing its node comes to, or what a visit to it does. -/
theorem yields_step {Q : Except Failure Onto → Prop} {resuming : Bool}
    (hpass : visits n resuming = false → Q (.ok ((t.standAt n.id).take ((t.standAt n.id).pass n))))
    (hvisit : visits n resuming = true → ((t.standAt n.id).visit n).Yields
      fun r => Q (r.map fun r => (r.1.record n .executed none r.2.text).take r.2))
    (hbarred : ∀ f, Q (.error f)) : (t.step n resuming).Yields Q := by
  have hafter : ∀ p : Visit,
      p.Yields (fun r => Q (r.map fun r => (r.1.record n .executed none r.2.text).take r.2)) →
      (p >>= fun r => pure ((r.1.record n .executed none r.2.text).take r.2)).Yields Q := by
    intro p hp
    refine Program.yields_bind.2 (hp.mono fun r hr => ?_)
    cases r <;> exact hr
  unfold step
  dsimp only
  cases resuming with
  | false =>
    rw [Bool.false_and]
    refine hafter _ (Program.yields_bind.2 (Program.yields_bind.2 (Program.yields_call.2 ?_)))
    rintro (e | ⟨⟩)
    · exact hbarred e
    · exact hvisit rfl
  | true =>
    split
    · rename_i hpassed
      exact hpass (by simpa [visits] using hpassed)
    · rename_i hvisited
      exact hafter _ (hvisit (by simpa [visits] using hvisited))

/-- What a step comes to: it ends where it stands, parked only at a pause, or goes on at a node one
step away. -/
def Goes (t : Turn) (n : Node) (executed : Bool) : Onto → Prop
  | .ended u => t.Same u ∧ t.Tells n executed u ∧ u.conversation.node = n.id ∧
      u.conversation.entersOnResume = t.conversation.entersOnResume ∧
      (u.conversation.isActive = true → u.conversation.awaitsInput = false →
        ∃ p, n.body = .pause p)
  | .node u m => t.Same u ∧ t.Tells n executed u ∧
      u.conversation.entersOnResume = t.conversation.entersOnResume ∧
      m ∈ t.flow.nodes ∧ m.id ∈ t.flow.successorIds n

theorem take_goes {r : Turn × Step} {executed : Bool} (h : t.Visited n r)
    (htells : t.Tells n executed r.1) (hn : t.conversation.node = n.id) :
    t.Goes n executed (r.1.take r.2) := by
  obtain ⟨u, s⟩ := r
  obtain ⟨ha, hfits⟩ := h
  obtain ⟨w, hw, -, hhistory, htaken⟩ := take_taken u s
  have hw : t.Alike w := ha.trans hw
  have hs := hw.same
  have htells : t.Tells n executed w := htells.of_history hhistory
  have hnode : w.conversation.node = n.id := by rw [hw.conversation]; exact hn
  have henters : w.conversation.entersOnResume = t.conversation.entersOnResume := by
    rw [hw.conversation]
  -- The turn at its end belongs to the same conversation, whichever way it ends.
  have hsame : ∀ v : Turn, v.conversation.id = w.conversation.id →
      v.conversation.contact = w.conversation.contact →
      v.conversation.flowId = w.conversation.flowId → v.flow = w.flow → v.version = w.version →
      v.isNew = w.isNew → t.Same v := fun v hid hcontact hflowId hflow hversion hnew =>
    hs.trans ⟨hid, hcontact, hflowId, hflow, hversion, hnew⟩
  simp only at hfits htaken ⊢
  generalize s.onward = onward at hfits htaken
  generalize u.take s = onto at htaken ⊢
  cases htaken with
  | wait =>
    exact ⟨hsame _ rfl rfl rfl rfl rfl rfl, htells.of_history rfl, hnode, henters, nofun⟩
  | park =>
    obtain ⟨-, ⟨p, hp, -⟩, -⟩ := hfits
    exact ⟨hsame _ rfl rfl rfl rfl rfl rfl, htells.of_history rfl, hnode, henters,
      fun _ _ => ⟨p, hp⟩⟩
  | finish =>
    exact ⟨hsame _ rfl rfl rfl rfl rfl rfl, htells.of_history rfl, hnode, henters, nofun⟩
  | astray hm =>
    exact ⟨hsame _ rfl rfl rfl rfl rfl rfl, htells.of_history rfl, hnode, henters, nofun⟩
  | next hm =>
    obtain ⟨-, hid⟩ := hfits
    refine ⟨hs, htells, henters, hw.flow ▸ Flow.node?_mem hm, ?_⟩
    rw [Flow.node?_id hm]
    exact hid

theorem step_goes (t : Turn) (n : Node) (resuming : Bool) :
    (t.step n resuming).Yields (Program.Either (t.Goes n (visits n resuming)) fun _ => True) := by
  have back : ∀ executed r, (t.standAt n.id).Goes n executed r → t.Goes n executed r := by
    intro executed r hr
    cases r with
    | ended u =>
      obtain ⟨h, hrest⟩ := hr
      exact ⟨⟨h.id, h.contact, h.flowId, h.flow, h.version, h.isNew⟩, hrest⟩
    | node u m =>
      obtain ⟨h, hrest⟩ := hr
      exact ⟨⟨h.id, h.contact, h.flowId, h.flow, h.version, h.isNew⟩, hrest⟩
  refine yields_step (fun hpassed => ?_) (fun hvisited => ?_) fun _ => trivial
  · rw [hpassed]
    exact back _ _ (take_goes (pass_visited _ n) (tells_of_history rfl) rfl)
  · rw [hvisited]
    refine ((visit_yields _ n).and (visit_noted _ n)).mono ?_
    rintro (e | r) ⟨hvisited, hnoted⟩
    · exact trivial
    · exact back _ _ (take_goes (r := (r.1.record n .executed none r.2.text, r.2))
        ⟨hvisited.1.trans (alike_record ..), hvisited.2⟩
        (hnoted.executed hvisited.1.same.id _ _ _) rfl)

end Turn

end Parley
