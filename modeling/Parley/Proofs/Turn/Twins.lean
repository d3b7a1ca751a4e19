import Parley.Proofs.Program.Runs
import Parley.Proofs.Turn.Telling

/-!
# Turns that are told different things by the systems they call

Two turns are twins if they agree but for some variables (`Turn.Twin`). What a call is answered
shows in one variable at most, and where a turn goes does not hang on it: only a question or a
branch looks at the variables to choose its way, and only when it has a message in hand; and
whenever a node has been visited, the message is gone. So twins that still have their message have
all their variables in common.

`advance_related` says of two turns that begin alike, in surroundings that answer alike but for
calls: where both settle, they have executed the same nodes and left their conversations alike, and
their variables differ at most where a call that was executed keeps its answer (`Turn.HasCalled`).
Visits and steps keep what is needed of it (`visit_related`, `step_related`).
-/

namespace Parley

/-- Two rows of surroundings answer alike, calls apart. -/
structure Outside.CallsApart {σ : Type}
    (answer : (q : Outside.Ask) → σ → Except Failure q.Answer × σ) (S : σ → σ → Prop) : Prop where
  same : ∀ q s s', S s s' → (∀ r, q ≠ .call r) →
    (answer q s).1 = (answer q s').1 ∧ S (answer q s).2 (answer q s').2
  calls : ∀ r r' s s', S s s' → S (answer (.call r) s).2 (answer (.call r') s').2

/-- A node keeps the answer to its call under a name. -/
def Node.KeepsAnswerAs (n : Node) (name : String) : Prop :=
  ∃ c, n.body = .call c ∧ c.keepsAnswer = true ∧
    Turn.firstGiven [c.answerVariable] Turn.usualAnswerVariable = name

namespace Turn

/-- Two turns agree but for variables of certain names. -/
structure Twin (W : String → Prop) (t u : Turn) : Prop where
  alike : t.Alike u
  pending : u.pending = t.pending
  executed : nodesOf .executed u.history = nodesOf .executed t.history
  vars : ∀ name, ¬ W name → u.conversation.valueOf? name = t.conversation.valueOf? name

/-- A message still in hand has been met with the same variables. -/
def Unparted (t u : Turn) : Prop := t.pending ≠ none → u.vars = t.vars

variable {W W' : String → Prop} {t u v w : Turn} {n m : Node}

theorem Twin.mono (h : t.Twin W u) (hW : ∀ name, W name → W' name) : t.Twin W' u :=
  ⟨h.alike, h.pending, h.executed, fun name hname => h.vars name fun hw => hname (hW name hw)⟩

/-- What one turn becomes by a change of its conversation. -/
structure Becomes (g : Conversation → Conversation) (t v : Turn) : Prop where
  conversation : v.conversation = g t.conversation
  flow : v.flow = t.flow
  version : v.version = t.version
  isNew : v.isNew = t.isNew

/-- Twins remain after the same change of both conversations that does nothing to the variables. -/
theorem Twin.update {g : Conversation → Conversation} (h : t.Twin W u) (hv : Becomes g t v)
    (hw : Becomes g u w) (hg : ∀ c vars, g { c with vars } = { g c with vars })
    (hpending : w.pending = v.pending)
    (hexecuted : nodesOf .executed w.history = nodesOf .executed v.history) : v.Twin W w := by
  have hsame : ∀ c, (g c).vars = c.vars := fun c => congrArg (·.vars) (hg c c.vars)
  refine ⟨⟨?_, ?_, ?_, ?_⟩, hpending, hexecuted, fun name hname => ?_⟩
  · rw [hw.conversation, hv.conversation, hsame, ← hg, ← h.alike.conversation]
  · rw [hw.flow, hv.flow, h.alike.flow]
  · rw [hw.version, hv.version, h.alike.version]
  · rw [hw.isNew, hv.isNew, h.alike.isNew]
  · unfold Conversation.valueOf?
    rw [hw.conversation, hv.conversation, hsame, hsame]
    exact h.vars name hname

theorem Twin.standAt (h : t.Twin W u) (id : String) : (t.standAt id).Twin W (u.standAt id) :=
  h.update (g := fun c => { c with node := id }) ⟨rfl, rfl, rfl, rfl⟩ ⟨rfl, rfl, rfl, rfl⟩
    (fun _ _ => rfl) h.pending h.executed

theorem Twin.withoutInput (h : t.Twin W u) : t.withoutInput.Twin W u.withoutInput :=
  h.update (g := id) ⟨rfl, rfl, rfl, rfl⟩ ⟨rfl, rfl, rfl, rfl⟩ (fun _ _ => rfl) rfl h.executed

theorem Twin.say (h : t.Twin W u) (text text' : Option String)
    (media media' : Option MediaReference) : (t.say text media).Twin W (u.say text' media') :=
  h.update (g := id) ⟨rfl, rfl, rfl, rfl⟩ ⟨rfl, rfl, rfl, rfl⟩ (fun _ _ => rfl) h.pending h.executed

theorem Twin.record (h : t.Twin W u) (n : Node) (a : Action)
    (input input' output output' label label' : Option String) :
    (t.record n a input output label).Twin W (u.record n a input' output' label') := by
  refine h.update (g := id) ⟨rfl, rfl, rfl, rfl⟩ ⟨rfl, rfl, rfl, rfl⟩ (fun _ _ => rfl) h.pending ?_
  show nodesOf .executed (u.history ++ [_]) = nodesOf .executed (t.history ++ [_])
  rw [nodesOf_append, nodesOf_append, h.executed, nodesOf_singleton, nodesOf_singleton]
  rfl

theorem Twin.cut (h : t.Twin W u) (id : String) : (t.cut id).Twin W (u.cut id) :=
  h.update (g := fun c => { c with node := id, awaitsInput := true, entersOnResume := true })
    ⟨rfl, rfl, rfl, rfl⟩ ⟨rfl, rfl, rfl, rfl⟩ (fun _ _ => rfl) h.pending h.executed

theorem Twin.awaiting (h : t.Twin W u) : t.awaiting.Twin W u.awaiting :=
  h.update (g := fun c => { c with awaitsInput := true }) ⟨rfl, rfl, rfl, rfl⟩ ⟨rfl, rfl, rfl, rfl⟩
    (fun _ _ => rfl) h.pending h.executed

theorem Twin.parked (h : t.Twin W u) : t.parked.Twin W u.parked :=
  h.update (g := fun c => { c with awaitsInput := false }) ⟨rfl, rfl, rfl, rfl⟩
    ⟨rfl, rfl, rfl, rfl⟩ (fun _ _ => rfl) h.pending h.executed

theorem Twin.ended (h : t.Twin W u) : t.ended.Twin W u.ended :=
  h.update (g := Conversation.finished) ⟨rfl, rfl, rfl, rfl⟩ ⟨rfl, rfl, rfl, rfl⟩ (fun _ _ => rfl)
    h.pending h.executed

theorem valueOf?_assign (c : Conversation) (name other : String) (value : Json) :
    (c.assign name value).valueOf? other = if name = other then some value else c.valueOf? other :=
  Dictionary.find?_put ..

/-- Both turns give a variable the same value. -/
theorem Twin.assign (h : t.Twin W u) (name : String) (value : Json) :
    (t.assign name value).Twin W (u.assign name value) := by
  refine ⟨⟨?_, h.alike.flow, h.alike.version, h.alike.isNew⟩, h.pending, h.executed,
    fun other hother => ?_⟩
  · show u.conversation.assign name value = _
    rw [h.alike.conversation]
    rfl
  · show (u.conversation.assign name value).valueOf? other =
      (t.conversation.assign name value).valueOf? other
    rw [valueOf?_assign, valueOf?_assign, h.vars other hother]

/-- One turn or the other may give a variable a value in which they may differ. -/
theorem Twin.assign_left {name : String} (h : t.Twin W u) (hname : W name) (value : Json) :
    (t.assign name value).Twin W u := by
  refine ⟨⟨?_, h.alike.flow, h.alike.version, h.alike.isNew⟩, h.pending, h.executed,
    fun other hother => ?_⟩
  · exact h.alike.conversation
  · show u.conversation.valueOf? other = (t.conversation.assign name value).valueOf? other
    rw [valueOf?_assign, if_neg (by rintro rfl; exact hother hname), h.vars other hother]

theorem Twin.assign_right {name : String} (h : t.Twin W u) (hname : W name) (value : Json) :
    t.Twin W (u.assign name value) := by
  refine ⟨⟨?_, h.alike.flow, h.alike.version, h.alike.isNew⟩, h.pending, h.executed,
    fun other hother => ?_⟩
  · show u.conversation.assign name value = _
    rw [h.alike.conversation]
    rfl
  · show (u.conversation.assign name value).valueOf? other = t.conversation.valueOf? other
    rw [valueOf?_assign, if_neg (by rintro rfl; exact hother hname), h.vars other hother]

/-! ## Visits -/

/-- Two steps lead the same way, and hand on no message. -/
structure Together (s s' : Step) : Prop where
  onward : s'.onward = s.onward
  keepsInput : s.onward.keepsInput = false

theorem together_nextOrFinish (h : u.flow = t.flow) (n : Node) (text text' : Option String)
    (media media' : Option MediaReference) :
    Together (t.nextOrFinish n text media) (u.nextOrFinish n text' media') := by
  unfold nextOrFinish
  rw [h]
  cases t.flow.successor? n <;> exact ⟨rfl, rfl⟩

theorem together_afterSaying (h : u.flow = t.flow) (n : Node) (await : Bool)
    (text text' : Option String) (media media' : Option MediaReference) :
    Together (t.afterSaying n await text media) (u.afterSaying n await text' media') := by
  unfold afterSaying
  rw [h]
  cases t.flow.successor? n <;> cases await <;> exact ⟨rfl, rfl⟩

theorem together_defaultStep (f : Flow) (n : Node) :
    Together (defaultStep f n) (defaultStep f n) := by
  unfold defaultStep
  split <;> exact ⟨rfl, rfl⟩

/-- What visits of twins come to. -/
def Abreast (W : String → Prop) (r r' : Turn × Step) : Prop :=
  r.1.Twin W r'.1 ∧ Together r.2 r'.2

section
variable {σ : Type} {answer : (q : Outside.Ask) → σ → Except Failure q.Answer × σ}
  {S : σ → σ → Prop}

theorem related_ask (hS : Outside.CallsApart answer S) {q : Outside.Ask} (hq : ∀ r, q ≠ .call r) :
    Program.Related answer S Eq (Outside.ask q) (Outside.ask q) := by
  rintro s s' hs _ _ _ _ ⟨⟩ ⟨⟩
  exact hS.same q s s' hs hq

theorem related_ask_call (hS : Outside.CallsApart answer S) (r r' : CallRequest) :
    Program.Related answer S (fun _ _ => True) (Outside.ask (.call r))
      (Outside.ask (.call r')) := by
  rintro s s' hs _ _ _ _ ⟨⟩ ⟨⟩
  exact ⟨trivial, hS.calls r r' s s' hs⟩

theorem attachment_related (hS : Outside.CallsApart answer S) (h : t.Twin W u)
    (kind : AttachmentKind) (a : Attachment) :
    Program.Related answer S (fun _ _ => True) (t.attachment kind a) (u.attachment kind a) := by
  have htenant : u.conversation.contact.tenant = t.conversation.contact.tenant := by
    rw [h.alike.conversation]
  unfold attachment
  cases given a.mediaId with
  | none => exact Program.related_pure trivial
  | some id =>
    rw [htenant]
    refine (related_ask hS fun r hr => by cases hr).bind ?_
    rintro found _ rfl
    rcases found with _ | _ | _ <;> exact Program.related_pure trivial

theorem visitAttachment_related (hS : Outside.CallsApart answer S) (h : t.Twin W u) (n : Node)
    (kind : AttachmentKind) (a : Attachment) :
    Program.Related answer S (Abreast W) (t.visitAttachment n kind a)
      (u.visitAttachment n kind a) := by
  unfold visitAttachment
  refine (attachment_related hS h kind a).bind fun media media' _ => ?_
  cases media <;> cases media' <;>
    exact Program.related_pure ⟨h, together_afterSaying h.alike.flow n _ _ _ _ _⟩

theorem visitQuestion_abreast (h : t.Twin W u) (n : Node) (q : Question) :
    Abreast W (t.visitQuestion n q) (u.visitQuestion n q) := by
  have hafter := h.withoutInput
  have hkeep : ∀ {v w : Turn}, v.Twin W w → Abreast W (v, v.nextOrFinish n) (w, w.nextOrFinish n) :=
    fun hvw => ⟨hvw, together_nextOrFinish hvw.alike.flow n _ _ _ _⟩
  unfold visitQuestion
  rw [h.pending]
  cases t.pending with
  | none => exact ⟨hafter, rfl, rfl⟩
  | some answer =>
    dsimp only
    split
    · split
      · exact ⟨hafter, rfl, rfl⟩
      · cases given q.variable_ with
        | none => exact hkeep hafter
        | some name => exact hkeep (hafter.assign name _)
    · split
      · cases given q.variable_ with
        | none => exact hkeep hafter
        | some name => exact hkeep (hafter.assign name _)
      · exact ⟨hafter, rfl, rfl⟩

theorem visitBranch_abreast (h : t.Twin W u) (hmet : t.Unparted u) (n : Node) (b : Branch)
    {r r' : Turn × Step} (hr : t.visitBranch n b = .ok r) (hr' : u.visitBranch n b = .ok r') :
    Abreast W r r' := by
  have hafter := h.withoutInput
  unfold visitBranch at hr hr'
  rw [h.pending, h.alike.flow] at hr'
  cases hpending : t.pending with
  | none =>
    rw [hpending] at hr hr'
    cases hr
    cases hr'
    exact ⟨hafter, rfl, rfl⟩
  | some message =>
    rw [hpending] at hr hr'
    rw [hmet (by simp [hpending])] at hr'
    dsimp only at hr hr'
    cases hselect : Condition.select b.rules message t.vars with
    | error e =>
      rw [hselect] at hr
      cases hr
    | ok chosen =>
      rw [hselect] at hr hr'
      cases chosen with
      | none =>
        cases hr
        cases hr'
        exact ⟨hafter, together_defaultStep ..⟩
      | some place =>
        simp only [Except.map] at hr hr'
        have hnoted : ∀ output : String,
            (t.withoutInput.record n .conditionMet (some message) (some output)
              place.2.caption).Twin W
            (u.withoutInput.record n .conditionMet (some message) (some output)
              place.2.caption) := fun output => hafter.record ..
        cases htarget : ruleTarget? t.flow n place.2 with
        | none =>
          rw [htarget] at hr hr'
          cases hr
          cases hr'
          exact ⟨hnoted _, together_defaultStep ..⟩
        | some target =>
          rw [htarget] at hr hr'
          cases hr
          cases hr'
          exact ⟨hnoted _, rfl, rfl⟩

theorem visitPause_abreast (h : t.Twin W u) (n : Node) (p : Pause) :
    Abreast W (t.visitPause n p) (u.visitPause n p) := by
  have hnone : (u.flow.successor? n).isNone = (t.flow.successor? n).isNone := by
    rw [h.alike.flow]
  unfold visitPause
  dsimp only
  rw [hnone]
  split
  · exact ⟨h, together_nextOrFinish h.alike.flow n _ _ _ _⟩
  · exact ⟨⟨⟨h.alike.conversation, h.alike.flow, h.alike.version, h.alike.isNew⟩, h.pending,
      h.executed, h.vars⟩, rfl, rfl⟩

/-- Whatever the calls come to, the turns differ in one variable more at most. -/
theorem visitCall_related (hS : Outside.CallsApart answer S) (h : t.Twin W u) {c : Call}
    (hn : n.body = .call c) :
    Program.Related answer S (Abreast fun name => W name ∨ n.KeepsAnswerAs name)
      (t.visitCall n c) (u.visitCall n c) := by
  generalize hW : (fun name => W name ∨ n.KeepsAnswerAs name) = W'
  have hwide : t.Twin W' u := h.mono fun name hname => hW ▸ Or.inl hname
  have hkeeps : c.keepsAnswer = true →
      W' (firstGiven [c.answerVariable] usualAnswerVariable) := fun hc =>
    hW ▸ Or.inr ⟨c, hn, hc, rfl⟩
  unfold visitCall
  refine (Program.related_ofExcept (R := fun _ _ => True) fun _ _ _ _ => trivial).bind
    fun request request' _ => ?_
  refine (related_ask_call hS request request').bind fun a a' _ => ?_
  suffices hkept : ∀ v w : Turn, v.Twin W' w → Abreast W' (v, v.nextOrFinish n)
      (w, w.nextOrFinish n) by
    refine Program.related_pure (hkept _ _ ?_)
    rcases a with e | a <;> rcases a' with e' | a' <;> dsimp only
    · exact hwide
    · split
      · exact hwide.assign_right (hkeeps (by simp_all)) _
      · exact hwide
    · split
      · exact hwide.assign_left (hkeeps (by simp_all)) _
      · exact hwide
    · split <;> split
      · exact (hwide.assign_left (hkeeps (by simp_all)) _).assign_right (hkeeps (by simp_all)) _
      · exact hwide.assign_left (hkeeps (by simp_all)) _
      · exact hwide.assign_right (hkeeps (by simp_all)) _
      · exact hwide
  exact fun v w hvw => ⟨hvw, together_nextOrFinish hvw.alike.flow n _ _ _ _⟩

theorem visitHandover_related (hS : Outside.CallsApart answer S) (h : t.Twin W u)
    (b : Handover) :
    Program.Related answer S (Abreast W) (t.visitHandover b) (u.visitHandover b) := by
  have htenant : u.conversation.contact.tenant = t.conversation.contact.tenant := by
    rw [h.alike.conversation]
  have hafter := h.withoutInput
  unfold visitHandover
  dsimp only
  rw [htenant]
  split
  · refine (related_ask hS fun r hr => by cases hr).bind ?_
    rintro isOpen _ rfl
    rcases isOpen with _ | _ | _
    · exact Program.related_pure ⟨hafter, rfl, rfl⟩
    · refine (related_ask hS fun r hr => by cases hr).bind fun _ _ _ => ?_
      exact Program.related_pure ⟨hafter, rfl, rfl⟩
    · exact Program.related_pure ⟨hafter, rfl, rfl⟩
  · exact Program.related_pure ⟨hafter, rfl, rfl⟩

/-- Twins that visit a node with the same message remain twins, but for what a call keeps. -/
theorem visit_related (hS : Outside.CallsApart answer S) (h : t.Twin W u) (hmet : t.Unparted u)
    (n : Node) :
    Program.Related answer S (Abreast fun name => W name ∨ n.KeepsAnswerAs name) (t.visit n)
      (u.visit n) := by
  have hwide : ∀ r r', Abreast W r r' →
      Abreast (fun name => W name ∨ n.KeepsAnswerAs name) r r' :=
    fun r r' hr => ⟨hr.1.mono fun _ => Or.inl, hr.2⟩
  unfold visit
  cases hn : n.body with
  | start | unknown =>
    exact Program.related_pure (hwide _ _ ⟨h, together_nextOrFinish h.alike.flow ..⟩)
  | message m => exact Program.related_pure (hwide _ _ ⟨h, together_afterSaying h.alike.flow ..⟩)
  | attachment kind a => exact (visitAttachment_related hS h n kind a).mono hwide
  | question q => exact Program.related_pure (hwide _ _ (visitQuestion_abreast h n q))
  | branch b =>
    exact Program.related_ofExcept fun r r' hr hr' =>
      hwide _ _ (visitBranch_abreast h hmet n b hr hr')
  | pause p => exact Program.related_pure (hwide _ _ (visitPause_abreast h n p))
  | call c => exact visitCall_related hS h hn
  | handover b => exact (visitHandover_related hS h b).mono hwide
  | ticket k => exact Program.related_pure (hwide _ _ ⟨h, rfl, rfl⟩)
  | ending text => exact Program.related_pure (hwide _ _ ⟨h, rfl, rfl⟩)

theorem enter_related (hS : Outside.CallsApart answer S) (h : t.Twin W u) (hmet : t.Unparted u)
    (n : Node) :
    Program.Related answer S (Abreast fun name => W name ∨ n.KeepsAnswerAs name) (t.enter n)
      (u.enter n) := by
  unfold enter Outside.demand
  refine ((related_ask hS fun r hr => by cases hr).bind ?_).bind
    fun _ _ (_ : True) => visit_related hS h hmet n
  exact fun _ _ _ => Program.related_ofExcept fun _ _ _ _ => trivial

/-! ## Steps -/

/-- A call that a turn has executed keeps its answer under a name. -/
def HasCalled (t : Turn) (name : String) : Prop :=
  ∃ n ∈ t.flow.nodes, n.id ∈ nodesOf .executed t.history ∧ n.KeepsAnswerAs name

/-- What steps of twins come to: ends that are twins, or twins at the same node. -/
def Level : Onto → Onto → Prop
  | .ended t, .ended u => t.Twin t.HasCalled u
  | .node t n, .node u m => t.Twin t.HasCalled u ∧ t.Unparted u ∧ m = n ∧ n ∈ t.flow.nodes
  | _, _ => False

/-- Where twins go on to a node, or end the conversation because there is none. -/
theorem level_next (h : t.Twin t.HasCalled u) (hmet : t.Unparted u) (id : String) :
    Level (match t.flow.node? id with | some n => .node t n | none => .ended t.ended)
      (match u.flow.node? id with | some n => .node u n | none => .ended u.ended) := by
  rw [h.alike.flow]
  cases hn : t.flow.node? id with
  | none => exact h.ended
  | some n => exact ⟨h, hmet, rfl, Flow.node?_mem hn⟩

theorem take_level {s s' : Step} (h : t.Twin t.HasCalled u) (honward : s'.onward = s.onward)
    (hkeeps : s.onward.keepsInput = true → t.Unparted u) : Level (t.take s) (u.take s') := by
  have hdropped := h.withoutInput.say s.text s'.text s.media s'.media
  unfold take
  rw [honward]
  cases hs : s.onward with
  | wait => exact hdropped.awaiting
  | park => exact hdropped.parked
  | finish => exact hdropped.ended
  | next id keeps =>
    cases keeps with
    | false => exact level_next hdropped (fun hpending => absurd rfl hpending) id
    | true =>
      rw [hs] at hkeeps
      have hkept := h.say s.text s'.text s.media s'.media
      exact level_next (t := t.say s.text s.media) hkept (hkeeps rfl) id

/-- A node that was visited was executed, so that what its call keeps is accounted for. -/
theorem hasCalled_of_executed (hn : n ∈ t.flow.nodes) {v : Turn} (hflow : v.flow = t.flow)
    (hexecuted : nodesOf .executed v.history = nodesOf .executed t.history) (output : Option String)
    {name : String} (h : t.HasCalled name ∨ n.KeepsAnswerAs name) :
    (v.record n .executed none output).HasCalled name := by
  have hnodes : nodesOf .executed (v.record n .executed none output).history =
      nodesOf .executed t.history ++ [n.id] := by
    show nodesOf .executed (v.history ++ [_]) = _
    rw [nodesOf_append, hexecuted]
    rfl
  unfold HasCalled
  rw [hnodes, show (v.record n .executed none output).flow = t.flow from hflow]
  rcases h with ⟨m, hm, hid, hkeeps⟩ | hkeeps
  · exact ⟨m, hm, List.mem_append_left _ hid, hkeeps⟩
  · exact ⟨n, hn, List.mem_append_right _ List.mem_cons_self, hkeeps⟩

theorem HasCalled.entered {name : String} (m : Node) (h : t.HasCalled name) :
    (t.record m .entered).HasCalled name := by
  obtain ⟨n, hn, hid, hkeeps⟩ := h
  refine ⟨n, hn, ?_, hkeeps⟩
  show n.id ∈ nodesOf .executed (t.history ++ [t.entry m .entered])
  rw [nodesOf_append]
  exact List.mem_append_left _ hid

/-- Twins that may visit the same node take steps that are level. -/
theorem step_related (hS : Outside.CallsApart answer S) (h : t.Twin t.HasCalled u)
    (hmet : t.Unparted u) (hn : n ∈ t.flow.nodes) (resuming : Bool) :
    Program.Related answer S Level (t.step n resuming) (u.step n resuming) := by
  have hstand := h.standAt n.id
  have hvisited : ∀ {p q : Visit},
      Program.Related answer S (Abreast fun name => t.HasCalled name ∨ n.KeepsAnswerAs name) p q →
      p.Yields (Program.Either ((t.standAt n.id).Visited n) fun _ => True) →
      p.Yields (Program.Either ((t.standAt n.id).Noted n) fun _ => True) →
      Program.Related answer S Level
        (p >>= fun r => pure ((r.1.record n .executed none r.2.text).take r.2))
        (q >>= fun r => pure ((r.1.record n .executed none r.2.text).take r.2)) := by
    intro p q hpq hvisits hnotes
    refine ((hpq.and hvisits).and hnotes).bind fun r r' hr => Program.related_pure ?_
    obtain ⟨⟨⟨htwin, htogether⟩, hvisit⟩, hnoted⟩ := hr
    have hexecuted : nodesOf .executed r.1.history = nodesOf .executed t.history := by
      rw [Tells.nodesOf_executed hnoted]
      exact List.append_nil _
    refine take_level ((htwin.record ..).mono fun name hname =>
      hasCalled_of_executed hn hvisit.1.flow hexecuted _ hname) htogether.onward fun hkeeps => ?_
    rw [htogether.keepsInput] at hkeeps
    cases hkeeps
  unfold step
  dsimp only
  split
  · have hpass : (u.standAt n.id).pass n = (t.standAt n.id).pass n := by
      unfold pass
      rw [hstand.alike.flow]
    exact Program.related_pure (take_level hstand (congrArg Step.onward hpass) fun _ => hmet)
  · split
    · exact hvisited (visit_related hS hstand hmet n) (visit_yields _ n) (visit_noted _ n)
    · exact hvisited (enter_related hS hstand hmet n) (enter_yields _ n) (enter_noted _ n)

/-! ## Turns -/

/-- A turn settles after a step: it has come to its end, is cut short, or goes on. -/
def SettlesAfter (answer : (q : Outside.Ask) → σ → Except Failure q.Answer × σ) (s : σ)
    (left : Nat) (v : Turn) : Onto → Prop
  | .ended u => v = u
  | .node u m => match left with
    | 0 => v = u.cut m.id
    | left + 1 => (((u.record m .entered).advance left m false).run answer s).1 = .ok (.settled v)

theorem run_advance_settled {left : Nat} {resuming : Bool} {s : σ}
    (h : ((t.advance left n resuming).run answer s).1 = .ok (.settled v)) :
    ∃ onto s', (t.step n resuming).run answer s = (.ok onto, s') ∧
      SettlesAfter answer s' left v onto := by
  unfold advance at h
  obtain ⟨result, s', hresult, hrest⟩ := Program.run_bind_ok.1 (Prod.ext h rfl)
  have hstep := Program.run_attempt_ok.1 hresult
  rcases result with e | u | ⟨u, m⟩
  · cases hrest
  · cases hrest
    exact ⟨_, _, hstep, rfl⟩
  · refine ⟨_, s', hstep, ?_⟩
    cases left with
    | zero =>
      cases hrest
      rfl
    | succ left => exact congrArg Prod.fst hrest

/-- After steps that are level twins have settled as twins, or may both visit the same node next. -/
theorem Level.settled_or_next {onto onto' : Onto} {left : Nat} {s s' : σ} (h : Level onto onto')
    (hv : SettlesAfter answer s left v onto) (hw : SettlesAfter answer s' left w onto') :
    v.Twin v.HasCalled w ∨ ∃ (less : Nat) (t u : Turn) (n : Node), left = less + 1 ∧
      t.Twin t.HasCalled u ∧ t.Unparted u ∧ n ∈ t.flow.nodes ∧
      ((t.advance less n false).run answer s).1 = .ok (.settled v) ∧
      ((u.advance less n false).run answer s').1 = .ok (.settled w) := by
  rcases onto with t | ⟨t, n⟩ <;> rcases onto' with u | ⟨u, m⟩
  · obtain rfl : v = t := hv
    obtain rfl : w = u := hw
    exact Or.inl h
  · exact h.elim
  · exact h.elim
  · obtain ⟨htwin, hmet, rfl, hm⟩ := h
    cases left with
    | zero =>
      obtain rfl : v = t.cut m.id := hv
      obtain rfl : w = u.cut m.id := hw
      exact Or.inl (htwin.cut m.id)
    | succ less =>
      have hentered : (t.record m .entered).Twin (t.record m .entered).HasCalled
          (u.record m .entered) :=
        (htwin.record m .entered ..).mono fun _ => HasCalled.entered m
      exact Or.inr ⟨less, _, _, m, rfl, hentered, hmet, hm, hv, hw⟩

/-- Turns that begin as twins, in surroundings that answer alike but for calls, settle as twins. -/
theorem advance_related (hS : Outside.CallsApart answer S) (left : Nat)
    (h : t.Twin t.HasCalled u) (hmet : t.Unparted u) (hn : n ∈ t.flow.nodes) (resuming : Bool)
    {s s' : σ} (hs : S s s')
    (hv : ((t.advance left n resuming).run answer s).1 = .ok (.settled v))
    (hw : ((u.advance left n resuming).run answer s').1 = .ok (.settled w)) :
    v.Twin v.HasCalled w := by
  induction left generalizing t u n resuming s s' with
  | zero =>
    obtain ⟨onto, s₁, hstep, hsettles⟩ := run_advance_settled hv
    obtain ⟨onto', s₁', hstep', hsettles'⟩ := run_advance_settled hw
    have hsteps := step_related hS h hmet hn resuming s s' hs _ _ _ _ hstep hstep'
    obtain hsettled | ⟨less, -, -, -, hless, -⟩ := hsteps.1.settled_or_next hsettles hsettles'
    · exact hsettled
    · cases hless
  | succ left ih =>
    obtain ⟨onto, s₁, hstep, hsettles⟩ := run_advance_settled hv
    obtain ⟨onto', s₁', hstep', hsettles'⟩ := run_advance_settled hw
    have hsteps := step_related hS h hmet hn resuming s s' hs _ _ _ _ hstep hstep'
    obtain hsettled | ⟨less, _, _, _, hless, htwin, hmet', hm, hv', hw'⟩ :=
      hsteps.1.settled_or_next hsettles hsettles'
    · exact hsettled
    · obtain rfl : left = less := Nat.succ.inj hless
      exact ih htwin hmet' hm false hsteps.2 hv' hw'

end

end Turn

end Parley
