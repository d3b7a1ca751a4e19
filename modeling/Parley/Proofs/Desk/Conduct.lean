import Parley.Proofs.Desk.Rules
import Parley.Proofs.Turn.Variables

/-!
# How a desk conducts itself

`Desk.Notes` sums up what a desk has been told in the course of one piece of work, and `Desk.conduct`
is the protocol that it keeps to, whatever it is told:

* it writes a conversation over the version at which it was shown it, active, and only where that
  waits for an answer or the desk was woken for it, and takes no variable away
  (`Notes.Continues`);
* it keeps a new conversation under an id that was made up for it and not used before
  (`Notes.Begins`);
* either way the conversation then stands as it may in a flow that the desk was given;
* a conversation that it has kept to wait for a timer gets that timer before the work ends and
  before anything else is kept (`Notes.owes`), and no other timer is set;
* it cancels timers of conversations that it knows to be over only (`Notes.ended`).

`start_behaves`, `resume_behaves`, `receive_behaves`, `cancel_behaves` and `wake_behaves` say so of the
operations. Each is put together from one lemma for every part of it.
-/

namespace Parley

/-- What the timer of a conversation stands for. -/
def Conversation.wake (c : Conversation) : Wake where
  contact := c.contact
  conversation := c.id
  flow := c.flowId
  node := c.node

namespace Desk

/-- What a desk has been told in the course of one piece of work. -/
structure Notes where
  /-- The flows it was given, by the ids it asked for. -/
  flows : List (String × Flow) := []
  /-- The conversations it was shown. -/
  seen : List Conversation := []
  /-- The ids made up for it that it has not used. -/
  ids : List String := []
  /-- The conversations that it knows to be over. -/
  ended : List String := []
  /-- The conversation it was woken for, until that is kept. -/
  due : Option String := none
  /-- A conversation that was kept to wait for a timer which is not set yet. -/
  owes : Option Conversation := none

namespace Notes

/-- A conversation may be kept as a new one. -/
def Begins (k : Notes) (c : Conversation) : Prop :=
  c.id ∈ k.ids ∧ ∃ f, (c.flowId, f) ∈ k.flows ∧ f.isUsable = true ∧
    ((∀ n ∈ f.nodes, n.id ≠ "") → c.StandsIn f)

/-- A conversation may be written over a version. -/
def Continues (k : Notes) (c : Conversation) (version : Int) : Prop :=
  ∃ b ∈ k.seen, b.isActive = true ∧ b.version = version ∧
    (b.awaitsInput = true ∨ k.due = some b.id) ∧
    c.id = b.id ∧ c.contact = b.contact ∧ c.flowId = b.flowId ∧ b.KeepsNames c ∧
    ∃ f, (c.flowId, f) ∈ k.flows ∧ (b.StandsIn f → c.StandsIn f)

/-- A conversation was kept. -/
def keeping (k : Notes) (c : Conversation) : Notes :=
  { k with
    ended := if c.isActive then k.ended else c.id :: k.ended
    due := if k.due = some c.id then none else k.due
    owes := if c.isActive && !c.awaitsInput then some c else none }

/-- Whether a question may be asked. -/
def May (k : Notes) : Ask → Prop
  | .store (.create c) => k.owes = none ∧ k.Begins c
  | .store (.save c version) => k.owes = none ∧ k.Continues c version
  | .schedule id _ w => ∃ c, k.owes = some c ∧ id = c.id ∧ w = c.wake
  | .cancelTimer id => id ∈ k.ended
  | _ => True

/-- The notes after an answer. -/
def after (k : Notes) : (q : Ask) → q.Answer → Notes
  | .store (.flow _ id), .ok (some f) => { k with flows := (id, f) :: k.flows }
  | .store (.active _), .ok (some c) => { k with seen := c :: k.seen }
  | .store (.conversation _), .ok (some c) => { k with seen := c :: k.seen }
  | .store (.create _), .ok c => { k.keeping c with ids := k.ids.filter (· ≠ c.id) }
  | .store (.save _ _), .ok c => k.keeping c
  | .store (.deactivate _), .ok ids => { k with ended := ids ++ k.ended }
  | .freshId, id => { k with ids := id :: k.ids }
  | .schedule _ _ _, _ => { k with owes := none }
  | _, _ => k

end Notes

/-- What an answer can be relied on to be. -/
def Ask.Hears : (q : Ask) → q.Answer → Prop
  | .store (.active _), .ok (some c) => c.isActive = true
  | .store (.conversation id), .ok (some c) => c.id = id
  | .store (.create c), .ok kept => kept = { c with version := 1 }
  | .store (.save c version), .ok kept =>
    ∃ now, kept = { c with version := version + 1, updatedAt := now }
  | _, _ => True

/-- How a desk conducts itself. -/
def conduct : Protocol Access Notes where
  may := Notes.May
  hears := Ask.Hears
  after := Notes.after

open Program

variable {α : Type} {k : Notes}

/-! ## Questions -/

/-- A failure of the store tells a desk nothing. -/
theorem Notes.after_error (k : Notes) (q : Store.Ask) (e : Failure) :
    k.after (.store q) (.error e) = k := by
  cases q <;> rfl

/-- The work keeps to the conduct and owes no timer at its end. -/
def Behaves (k : Notes) (work : Work α) : Prop := work.Keeps conduct k fun _ k => k.owes = none

theorem Behaves.andThen {β : Type} {work : Work α} {f : α → Work β} (h : Behaves k work)
    (hf : ∀ a k, k.owes = none → Behaves k (f a)) : Behaves k (work >>= f) :=
  Keeps.andThen h hf

/-- Work goes on with the answer of the store; where that fails, the work fails. -/
theorem behaves_store {β : Type} {q : Store.Ask} {f : q.Answer → Work β} (hk : k.owes = none)
    (hmay : k.May (.store q))
    (hf : ∀ a, (Ask.store q).Hears (.ok a) → Behaves (k.after (.store q) (.ok a)) (f a)) :
    Behaves k (store q >>= f) := by
  refine keeps_bind.2 (keeps_store.2 ⟨hmay, fun r hr => ?_⟩)
  cases r with
  | error e =>
    show (k.after (.store q) (.error e)).owes = none
    rw [Notes.after_error]
    exact hk
  | ok a => exact hf a hr

theorem passes_outside (q : Outside.Ask) : Passes conduct k (.outside q) := ⟨trivial, fun _ => rfl⟩

/-- Holding a key takes no part in the conduct. -/
theorem conduct_holding {key : String} {work : Work α} {Q : Except Failure α → Notes → Prop}
    (h : work.Keeps conduct k Q) : (holding key work).Keeps conduct k Q :=
  keeps_holding ⟨trivial, fun _ => rfl⟩ h fun _ _ _ => ⟨trivial, fun _ => rfl⟩

theorem passes_append (e : Entry) : Passes conduct k (.store (.append e)) :=
  ⟨trivial, fun _ => rfl⟩

theorem passes_cancelTimer {id : String} (h : id ∈ k.ended) : Passes conduct k (.cancelTimer id) :=
  ⟨h, fun _ => rfl⟩

/-! ## Keeping what a turn has done -/

/-- What is noted of a conversation that was kept. -/
structure Notes.HasKept (k : Notes) (c : Conversation) : Prop where
  ended : c.isActive = false → c.id ∈ k.ended
  owes : k.owes = if c.isActive && !c.awaitsInput then some c else none

theorem Notes.hasKept_keeping (k : Notes) (c : Conversation) : (k.keeping c).HasKept c where
  ended h := by simp [keeping, h]
  owes := rfl

/-- The conversation that was kept has the flags of another, or nothing was kept and no timer is
owed. -/
def Keeping (c : Conversation) (r : Except Failure Conversation) (k : Notes) : Prop :=
  Either (fun kept => kept.isActive = c.isActive ∧ kept.awaitsInput = c.awaitsInput ∧ k.HasKept kept)
    (fun _ => k.owes = none) r

theorem replaceActive_keeps {c : Conversation} (hk : k.owes = none) (hc : k.Begins c) :
    (replaceActive c).Keeps conduct k (Keeping c) := by
  unfold replaceActive
  refine keeps_bind.2 (keeps_store.2 ⟨trivial, fun r _ => ?_⟩)
  cases r with
  | error e => exact hk
  | ok ids =>
    refine keeps_bind_of_same (cancelTimers_keeps fun id hid =>
      passes_cancelTimer (List.mem_append_left _ hid)) fun _ => ?_
    refine keeps_store.2 ⟨⟨hk, hc⟩, fun r hr => ?_⟩
    cases r with
    | error e => exact hk
    | ok kept =>
      obtain rfl : kept = _ := hr
      obtain ⟨hended, howes⟩ :=
        Notes.hasKept_keeping { k with ended := ids ++ k.ended } { c with version := 1 }
      exact ⟨rfl, rfl, hended, howes⟩

theorem save_keeps {c : Conversation} {version : Int} (hk : k.owes = none)
    (hc : k.Continues c version) : (store (.save c version)).Keeps conduct k (Keeping c) := by
  refine keeps_store.2 ⟨⟨hk, hc⟩, fun r hr => ?_⟩
  cases r with
  | error e => exact hk
  | ok kept =>
    obtain ⟨now, rfl⟩ := hr
    exact ⟨rfl, rfl, Notes.hasKept_keeping _ _⟩

theorem settleTimer_behaves {t : Turn} {kept : Conversation} (hr : t.Rests)
    (ha : kept.isActive = t.conversation.isActive)
    (hw : kept.awaitsInput = t.conversation.awaitsInput) (hk : k.HasKept kept) :
    Behaves k (settleTimer t kept) := by
  unfold settleTimer
  split
  · rename_i hact
    have htimed := hr.timed (ha ▸ hact)
    rw [← hw] at htimed
    cases hd : t.delay with
    | none =>
      rw [hd] at htimed
      have hwait : kept.awaitsInput = true := by simpa using htimed
      show k.owes = none
      rw [hk.owes, hwait, Bool.not_true, Bool.and_false]
      rfl
    | some seconds =>
      rw [hd] at htimed
      have hwait : kept.awaitsInput = false := by simpa using htimed
      refine keeps_ask.2 ⟨⟨kept, ?_, rfl, rfl⟩, fun _ _ => rfl⟩
      rw [hk.owes, hact, hwait]
      rfl
  · rename_i hact
    have hact : kept.isActive = false := by simpa using hact
    refine keeps_ask.2 ⟨hk.ended hact, fun _ _ => ?_⟩
    show k.owes = none
    rw [hk.owes, hact]
    rfl

/-- What must be noted before a turn runs from a node. -/
structure Ready (k : Notes) (t : Turn) (n : Node) : Prop where
  clear : k.owes = none
  isOpen : t.IsOpen
  flow : (t.conversation.flowId, t.flow) ∈ k.flows
  fresh : t.isNew = true → t.conversation.id ∈ k.ids ∧ t.flow.isUsable = true ∧
    ((∀ n ∈ t.flow.nodes, n.id ≠ "") → t.StandsAt n)
  read : t.isNew = false → ∃ b ∈ k.seen, b.isActive = true ∧ b.version = t.version ∧
    (b.awaitsInput = true ∨ k.due = some b.id) ∧ t.conversation.id = b.id ∧
    t.conversation.contact = b.contact ∧ t.conversation.flowId = b.flowId ∧
    b.KeepsNames t.conversation ∧ (b.StandsIn t.flow → t.StandsAt n)

theorem keep_keeps {t u : Turn} {n : Node} (h : Ready k t n) (hs : t.Same u)
    (hst : t.StandsAt n → u.conversation.StandsIn t.flow)
    (hnames : t.conversation.KeepsNames u.conversation) :
    (keep u).Keeps conduct k (Keeping u.conversation) := by
  unfold keep
  rw [hs.isNew]
  split
  · rename_i hnew
    obtain ⟨hid, huse, hplace⟩ := h.fresh hnew
    refine replaceActive_keeps h.clear ⟨hs.id ▸ hid, t.flow, hs.flowId ▸ h.flow, huse, ?_⟩
    exact fun hne => hst (hplace hne)
  · rename_i hnew
    obtain ⟨b, hb, hact, hv, hdue, hid, hcon, hflow, hkept, hplace⟩ :=
      h.read (by simpa using hnew)
    refine save_keeps h.clear ⟨b, hb, hact, hv.trans hs.version.symm, hdue, hs.id.trans hid,
      hs.contact.trans hcon, hs.flowId.trans hflow, hkept.trans hnames, t.flow,
      hs.flowId ▸ h.flow, ?_⟩
    exact fun hb => hst (hplace hb)

theorem commit_behaves {s : Settings} {t u : Turn} {n : Node} (h : Ready k t n) (hs : t.Same u)
    (hr : u.Rests) (hst : t.StandsAt n → u.conversation.StandsIn t.flow)
    (hnames : t.conversation.KeepsNames u.conversation) : Behaves k (commit s u) := by
  unfold commit
  refine keeps_bind.2 (keeps_attempt.2 ((keep_keeps h hs hst hnames).mono ?_))
  intro r k' hk'
  cases r with
  | error e =>
    -- Nothing was kept, so no timer is owed; what the failure was decides on the reply only.
    have hk' : k'.owes = none := hk'
    refine either_ok.2 ?_
    cases e <;> exact hk'
  | ok kept =>
    obtain ⟨hact, hwait, hkept⟩ := hk'
    refine keeps_bind_of_same (writeHistory_keeps fun e _ => passes_append e) fun _ => ?_
    exact (settleTimer_behaves hr hact hwait hkept).andThen fun _ _ hk => hk

theorem writeHistory_behaves (es : List Entry) (hk : k.owes = none) :
    Behaves k (writeHistory es) := by
  refine (writeHistory_keeps fun e _ => passes_append e).mono fun r k' hk' => ?_
  cases r with
  | error e => exact hk'.elim
  | ok u =>
    obtain rfl : k' = k := hk'
    exact hk

theorem noteFailure_behaves {t : Turn} {n : Node} {resuming : Bool} {f : Failure}
    (hk : k.owes = none) : Behaves k (noteFailure t n resuming f) := by
  unfold noteFailure
  refine Keeps.andThen (keeps_ofExcept.2 hk) fun input k hk => ?_
  exact (writeHistory_behaves _ hk).andThen fun _ _ hk => hk

theorem runTurn_behaves {s : Settings} {t : Turn} {n : Node} {resuming : Bool} (h : Ready k t n) :
    Behaves k (runTurn s t n resuming) := by
  unfold runTurn
  refine keeps_bind.2 ((keeps_outside passes_outside
    ((Turn.advance_yields s.further h.isOpen n resuming).and
      (Turn.advance_keepsNames s.further t n resuming))).mono ?_)
  intro r k' hr
  obtain ⟨⟨hr, hnames⟩, rfl⟩ := hr
  cases r with
  | error e => exact h.clear
  | ok course =>
    cases course with
    | settled u =>
      obtain ⟨hs, hrests, hst⟩ := hr
      exact (commit_behaves h hs hrests hst hnames).andThen fun _ _ hk => hk
    | broken u e => exact (noteFailure_behaves h.clear).andThen fun _ _ hk => hk

/-! ## The operations -/

/-- A new conversation stands at the start, and its id was made up for it. -/
theorem firstTurn_behaves {s : Settings} {contact : Contact} {flowId : String} {f : Flow} {n : Node}
    {text name phone : Option String} (hk : k.owes = none) (hf : (flowId, f) ∈ k.flows)
    (hn : f.start? = some n) (huse : f.isUsable = true) :
    Behaves k (firstTurn s contact flowId f n text name phone) := by
  unfold firstTurn
  refine keeps_bind.2 (keeps_ask.2 ⟨trivial, fun now _ => ?_⟩)
  refine keeps_bind.2 (keeps_ask.2 ⟨trivial, fun id _ => ?_⟩)
  refine Behaves.andThen (runTurn_behaves ?_) fun _ _ hk => hk
  refine ⟨hk, ⟨rfl, rfl⟩, hf, fun _ => ⟨List.mem_cons_self, huse, fun hne => ?_⟩, ?_⟩
  · have hmem := List.mem_of_find?_eq_some hn
    exact ⟨rfl, Flow.node?_of_mem hmem (hne n hmem), Flow.reaches_start hn⟩
  · intro hnew
    cases hnew

theorem startHeld_behaves (s : Settings) (contact : Contact) (flowId : String)
    (text name phone : Option String) (hk : k.owes = none) :
    Behaves k (startHeld s contact flowId text name phone) := by
  unfold startHeld
  refine behaves_store hk trivial fun found _ => ?_
  cases henabled : found.filter (·.enabled) with
  | none => cases found <;> exact hk
  | some f =>
    obtain ⟨rfl, -⟩ := Option.filter_eq_some_iff.1 henabled
    cases hn : f.start? with
    | none => simp only [hn]; exact hk
    | some n =>
      simp only [hn]
      split
      · rename_i huse
        exact firstTurn_behaves hk List.mem_cons_self hn huse
      · exact hk

/-- The node of a conversation is looked up in the flow that was found. -/
theorem node_of_found {found : Option Flow} {id : String} {f : Flow} {n : Node}
    (h : (found.bind fun f => (f.node? id).map (f, ·)) = some (f, n)) :
    found = some f ∧ f.node? id = some n := by
  obtain ⟨g, hg, h⟩ := Option.bind_eq_some_iff.1 h
  obtain ⟨m, hm, h⟩ := Option.map_eq_some_iff.1 h
  obtain ⟨rfl, rfl⟩ := Prod.mk.inj h
  exact ⟨hg, hm⟩

/-- A conversation that was shown active goes on from the node at which it stands. -/
theorem standsAt_of_standsIn {t : Turn} {c : Conversation} {n : Node} (hact : c.isActive = true)
    (henters : c.StandsIn t.flow → t.conversation.entersOnResume = false)
    (hn : t.flow.node? c.node = some n) (hc : c.StandsIn t.flow) : t.StandsAt n := by
  have hid := Flow.node?_id hn
  exact ⟨henters hc, by rw [hid]; exact hn, by rw [hid]; exact (hc.placed hact).2⟩

theorem ready_answeredTurn {c : Conversation} {f : Flow} {n : Node} {now : Moment}
    {text : Option String} (hk : k.owes = none) (hc : c ∈ k.seen) (hact : c.isActive = true)
    (hwait : c.awaitsInput = true) (hf : (c.flowId, f) ∈ k.flows)
    (hn : f.node? c.node = some n) : Ready k (answeredTurn now c f n text) n := by
  have ready : ∀ t : Turn, t.conversation.id = c.id → t.conversation.contact = c.contact →
      t.conversation.flowId = c.flowId → t.conversation.isActive = c.isActive →
      t.conversation.entersOnResume = false → c.KeepsNames t.conversation → t.flow = f →
      t.version = c.version → t.isNew = false → t.delay = none → Ready k t n := by
    intro t hid hcon hflow ha henters hnames htf hv hnew hd
    refine ⟨hk, ⟨ha.trans hact, hd⟩, by rw [hflow, htf]; exact hf, fun hnew' => ?_, fun _ => ?_⟩
    · rw [hnew] at hnew'
      cases hnew'
    · refine ⟨c, hc, hact, hv.symm, Or.inl hwait, hid, hcon, hflow, hnames, ?_⟩
      exact standsAt_of_standsIn hact (fun _ => henters) (htf ▸ hn)
  have hnames : c.KeepsNames ((c.assign "lastUserMessage" (.ofText? text)).assign "lastMessageAt"
      (.str now.text)) :=
    (c.keepsNames_assign _ _).trans (Conversation.keepsNames_assign _ _ _)
  unfold answeredTurn
  simp only
  split <;> exact ready _ rfl rfl rfl rfl rfl hnames rfl rfl rfl rfl

theorem resumeHeld_behaves (s : Settings) (contact : Contact) (text : Option String)
    (hk : k.owes = none) : Behaves k (resumeHeld s contact text) := by
  unfold resumeHeld
  refine behaves_store hk trivial fun active hactive => ?_
  cases active with
  | none => exact hk
  | some c =>
    have hact : c.isActive = true := hactive
    show Behaves _ (if c.awaitsInput then _ else _)
    split
    · rename_i hwait
      refine behaves_store hk trivial fun found _ => ?_
      cases hfound : found.bind fun f => (f.node? c.node).map (f, ·) with
      | none => cases found <;> exact hk
      | some p =>
        obtain ⟨f, n⟩ := p
        obtain ⟨rfl, hn⟩ := node_of_found hfound
        refine keeps_bind.2 (keeps_ask.2 ⟨trivial, fun now _ => ?_⟩)
        refine Behaves.andThen (runTurn_behaves ?_) fun _ _ hk => hk
        exact ready_answeredTurn hk List.mem_cons_self hact hwait List.mem_cons_self hn
    · exact hk

theorem continueHeld_behaves (s : Settings) (w : Wake) (hk : k.owes = none)
    (hw : k.due = some w.conversation) : Behaves k (continueHeld s w) := by
  unfold continueHeld
  refine behaves_store hk trivial fun found hfound => ?_
  cases hawaited : found.filter (isAwaited w) with
  | none => cases found <;> exact hk
  | some c =>
    obtain ⟨rfl, hawait⟩ := Option.filter_eq_some_iff.1 hawaited
    have hid : c.id = w.conversation := hfound
    simp only [isAwaited, Bool.and_eq_true, beq_iff_eq, Bool.not_eq_true'] at hawait
    obtain ⟨⟨⟨hact, hflow⟩, hnode⟩, hwait⟩ := hawait
    refine behaves_store hk trivial fun given _ => ?_
    cases hgiven : given.bind fun f => (f.node? w.node).map (f, ·) with
    | none => cases given <;> exact hk
    | some p =>
      obtain ⟨f, n⟩ := p
      obtain ⟨rfl, hn⟩ := node_of_found hgiven
      -- The turn may write over the conversation although it waits for no answer: it is due.
      refine keeps_bind.2 (keeps_ask.2 ⟨trivial, fun now _ => ?_⟩)
      refine Behaves.andThen (runTurn_behaves ?_) fun _ _ hk => hk
      refine ⟨hk, ⟨hact, rfl⟩, hflow ▸ List.mem_cons_self, fun hnew => ?_, fun _ => ?_⟩
      · cases hnew
      · refine ⟨c, List.mem_cons_self, hact, rfl, Or.inr (hw.trans (congrArg some hid.symm)),
          rfl, rfl, rfl, fun _ => id, ?_⟩
        exact standsAt_of_standsIn hact (fun hc => (hc.parked hact hwait).1) (hnode ▸ hn)

theorem start_behaves (s : Settings) (contact : Contact) (flowId : String)
    (text name phone : Option String) (hk : k.owes = none) :
    Behaves k (start s contact flowId text name phone) :=
  conduct_holding (startHeld_behaves s contact flowId text name phone hk)

theorem resume_behaves (s : Settings) (contact : Contact) (text : Option String)
    (hk : k.owes = none) : Behaves k (resume s contact text) :=
  conduct_holding (resumeHeld_behaves s contact text hk)

theorem flowFor_behaves (tenant : String) (text : Option String) (hk : k.owes = none) :
    Behaves k (flowFor tenant text) := by
  unfold flowFor
  split
  · exact hk
  · exact behaves_store hk trivial fun _ _ => hk

theorem resumeAwaiting_behaves (s : Settings) (contact : Contact) (text : Option String)
    (hk : k.owes = none) : Behaves k (resumeAwaiting s contact text) := by
  unfold resumeAwaiting
  refine behaves_store hk trivial fun active _ => ?_
  have hk' : (k.after (.store (.active contact)) (.ok active)).owes = none := by
    cases active <;> exact hk
  split
  · exact (resumeHeld_behaves s contact text hk').andThen fun _ _ hk => hk
  · exact hk'

theorem startAsked_behaves (s : Settings) (contact : Contact) (text name phone : Option String)
    (resumed : Option TurnResult) (hk : k.owes = none) :
    Behaves k (startAsked s contact text name phone resumed) := by
  unfold startAsked
  refine (flowFor_behaves contact.tenant text hk).andThen fun flow k hk => ?_
  split
  · exact hk
  · exact (startHeld_behaves s contact _ text name phone hk).andThen fun _ _ hk => hk

theorem receive_behaves (s : Settings) (contact : Contact) (text name phone : Option String)
    (hk : k.owes = none) : Behaves k (receive s contact text name phone) := by
  refine conduct_holding ((resumeAwaiting_behaves s contact text hk).andThen fun resumed k hk => ?_)
  split
  · exact hk
  · exact startAsked_behaves s contact text name phone resumed hk

theorem cancel_behaves (contact : Contact) (hk : k.owes = none) : Behaves k (cancel contact) := by
  refine conduct_holding (behaves_store hk trivial fun ids _ => ?_)
  refine Behaves.andThen ?_ fun _ _ hk => hk
  refine (cancelTimers_keeps fun id hid => passes_cancelTimer
    (List.mem_append_left _ hid)).mono fun r k' hk' => ?_
  cases r with
  | error e => exact hk'.elim
  | ok u =>
    obtain rfl : k' = _ := hk'
    exact hk

theorem active_behaves (contact : Contact) (hk : k.owes = none) : Behaves k (active contact) := by
  refine keeps_store.2 ⟨trivial, fun r _ => ?_⟩
  cases r with
  | error e => exact hk
  | ok c => cases c <;> exact hk

theorem wake_behaves (s : Settings) (w : Wake) (hk : k.owes = none)
    (hw : k.due = some w.conversation) : Behaves k (wake s w) := by
  refine Behaves.andThen (conduct_holding (continueHeld_behaves s w hk hw)) fun done k hk => ?_
  split
  · exact hk
  · split
    · refine keeps_bind.2 (keeps_ask.2 ⟨trivial, fun answer _ => ?_⟩)
      exact Keeps.andThen (keeps_ofExcept.2 hk) fun _ _ hk => hk
    · exact hk

end Desk

end Parley
