import Parley.Proofs.Desk.Custody
import Parley.Proofs.Turn.Trail

/-!
# What a desk tells of the conversations that it keeps

A desk opens a `Page` when it has kept a conversation, and tells on it what has happened in the
turn. `Desk.chronicle` is the protocol that it keeps to:

* it writes a conversation over the one that it was shown last, and a new one in a flow that there
  is;
* whatever it tells, failures apart, it tells on the open page, and of nodes in the order of a trail
  that goes on from where the conversation stood before (`Page.Allows`);
* it asks for nothing else before the page is whole: the conversation then stands behind the node
  entered last (`Page.IsWhole`).

A desk does not know what was told of a conversation earlier, only how the conversation stands. So
both are said of every node that may have been entered last then.

Each operation is shown to do so from a page that is whole (`Chronicles`).
-/

namespace Parley.Desk

open Program

/-- The nodes that may have been entered last before a conversation was written over another one, or
was new. -/
def Begins (before : Option Conversation) (f : Flow) (last : Option String) : Prop :=
  match before with
  | none => last = none
  | some b => b.ComesAfter f last

/-- What is told since a conversation was kept. -/
structure Page where
  /-- The conversation that it was written over, if it was not new. -/
  before : Option Conversation
  kept : Conversation
  told : List Entry := []

namespace Page

/-- The conversation stands behind the node entered last. -/
def IsWhole (flows : Dictionary Flow) (p : Page) : Prop :=
  ∀ f last, Dictionary.find? flows p.kept.flowId = some f → Begins p.before f last →
    p.kept.ComesAfter f (lastEntered last p.told)

/-- An entry may be told next. -/
def Allows (flows : Dictionary Flow) (p : Page) (e : Entry) : Prop :=
  e.conversation = p.kept.id ∧
    ∀ f last, Dictionary.find? flows p.kept.flowId = some f → Begins p.before f last →
      e.Follows f (lastEntered last p.told)

end Page

/-- What a desk has before it while it tells. -/
structure Pen where
  /-- The conversation that it was shown last. -/
  shown : Option Conversation := none
  /-- The page that is not known to be whole. -/
  page : Option Page := none

namespace Pen

/-- No page is left unfinished. -/
def IsWhole (flows : Dictionary Flow) (k : Pen) : Prop := ∀ p, k.page = some p → p.IsWhole flows

/-- The page is put away. -/
def away (k : Pen) : Pen := { k with page := none }

/-- Whether a question may be asked. -/
def May (flows : Dictionary Flow) (k : Pen) : Ask → Prop
  | .store (.create c) => k.IsWhole flows ∧ ∃ f, Dictionary.find? flows c.flowId = some f
  | .store (.save c version) => k.IsWhole flows ∧
    ∃ b, k.shown = some b ∧ b.id = c.id ∧ b.version = version ∧ b.flowId = c.flowId
  | .store (.append e) => e.action = .error ∨ ∃ p, k.page = some p ∧ p.Allows flows e
  | _ => k.IsWhole flows

/-- What a desk has before it after an answer. -/
def after (k : Pen) : (q : Ask) → q.Answer → Pen
  | .store (.active _), .ok c => { shown := c }
  | .store (.conversation _), .ok c => { shown := c }
  | .store (.create _), .ok c => { k with page := some { before := none, kept := c } }
  | .store (.save _ _), .ok c => { k with page := some { before := k.shown, kept := c } }
  | .store (.append e), _ =>
    { k with page := k.page.map fun p => { p with told := p.told ++ [e] } }
  | _, _ => k.away

end Pen

/-- How a desk tells of the conversations that it keeps. -/
def chronicle (flows : Dictionary Flow) : Protocol Access Pen where
  may := Pen.May flows
  hears := Ask.HearsIn flows
  after := Pen.after

variable {α β : Type} {flows : Dictionary Flow} {k : Pen}

/-- The work keeps to the chronicle and leaves no page unfinished. -/
def Chronicles (flows : Dictionary Flow) (k : Pen) (work : Work α) : Prop :=
  work.Keeps (chronicle flows) k fun _ k => k.IsWhole flows

theorem Chronicles.andThen {work : Work α} {f : α → Work β} (h : Chronicles flows k work)
    (hf : ∀ a k, k.IsWhole flows → Chronicles flows k (f a)) : Chronicles flows k (work >>= f) :=
  Keeps.andThen h hf

theorem Pen.isWhole_away (flows : Dictionary Flow) (k : Pen) : k.away.IsWhole flows :=
  fun p hp => by cases hp

theorem Pen.isWhole_of_none (h : k.page = none) : k.IsWhole flows := fun p hp => by
  rw [h] at hp
  cases hp

/-! ## Questions -/

/-- The question shows no conversation and writes none, and nothing is told by it. -/
def Ask.IsPlain : Ask → Prop
  | .store (.active _) | .store (.conversation _) | .store (.create _) | .store (.save _ _)
  | .store (.append _) => False
  | _ => True

theorem Pen.after_plain {q : Ask} (hq : q.IsPlain) (k : Pen) (r : q.Answer) :
    k.after q r = k.away := by
  cases q with
  | store q =>
    cases q with
    | flow | enabledFlows | deactivate | history => rfl
    | _ => exact hq.elim
  | _ => rfl

theorem Pen.may_plain {q : Ask} (hq : q.IsPlain) : k.May flows q ↔ k.IsWhole flows := by
  cases q with
  | store q =>
    cases q with
    | flow | enabledFlows | deactivate | history => exact Iff.rfl
    | _ => exact hq.elim
  | _ => exact Iff.rfl

/-- Work goes on from a plain question with its page put away. -/
theorem plain_bind {q : Ask} {f : q.Answer → Work α} {Q : Except Failure α → Pen → Prop}
    (hq : q.IsPlain) (hk : k.IsWhole flows)
    (hf : ∀ r, q.HearsIn flows r → (f r).Keeps (chronicle flows) k.away Q) :
    (ask q >>= f).Keeps (chronicle flows) k Q := by
  refine keeps_bind.2 (keeps_ask.2 ⟨(Pen.may_plain hq).2 hk, fun r hr => ?_⟩)
  show (f r).Keeps _ (k.after q r) _
  rw [Pen.after_plain hq]
  exact hf r hr

theorem plain_store_bind {q : Store.Ask} {f : q.Answer → Work α} (hq : (Ask.store q).IsPlain)
    (hk : k.IsWhole flows)
    (hf : ∀ a, (Ask.store q).HearsIn flows (.ok a) → Chronicles flows k.away (f a)) :
    Chronicles flows k (store q >>= f) := by
  refine keeps_bind.2 (keeps_store.2 ⟨(Pen.may_plain hq).2 hk, fun r hr => ?_⟩)
  show Either _ _ r
  change Ask.HearsIn flows (.store q) r at hr
  cases r with
  | error e =>
    show (k.after (.store q) (.error e)).IsWhole flows
    rw [Pen.after_plain hq]
    exact k.isWhole_away flows
  | ok a =>
    show Chronicles flows (k.after (.store q) (.ok a)) (f a)
    rw [Pen.after_plain hq]
    exact hf a hr

/-- A plain question passes where no page is open. -/
theorem passes_plain {q : Ask} (hq : q.IsPlain) (hk : k.page = none) :
    Passes (chronicle flows) k q where
  may := (Pen.may_plain hq).2 (Pen.isWhole_of_none hk)
  after r := by
    show k.after q r = k
    rw [Pen.after_plain hq]
    cases k
    cases hk
    rfl

/-- Work is shown a conversation, or none. -/
theorem shown_then {q : Store.Ask} {f : q.Answer → Work α} (hk : k.IsWhole flows)
    (hmay : k.IsWhole flows → k.May flows (.store q))
    (hafter : ∀ e, k.after (.store q) (.error e) = k.away)
    (hf : ∀ a, (Ask.store q).HearsIn flows (.ok a) →
      Chronicles flows (k.after (.store q) (.ok a)) (f a)) :
    Chronicles flows k (store q >>= f) := by
  refine keeps_bind.2 (keeps_store.2 ⟨hmay hk, fun r hr => ?_⟩)
  cases r with
  | error e =>
    show (k.after (.store q) (.error e)).IsWhole flows
    rw [hafter]
    exact k.isWhole_away flows
  | ok a => exact hf a hr

/-- Work for which a key is held. -/
theorem holding_chronicles {key : String} {work : Work α} (hk : k.IsWhole flows)
    (hw : Chronicles flows k.away work) : Chronicles flows k (holding key work) := by
  unfold holding
  refine plain_bind trivial hk fun _ _ => keeps_bind.2 (keeps_attempt.2 (Keeps.mono hw ?_))
  intro r k hk
  refine plain_bind trivial hk fun _ _ => keeps_ofExcept.2 (k.isWhole_away flows)

/-! ## Keeping what a turn has done -/

/-- A page was opened for a conversation that was kept, or nothing was kept. -/
def Opens (flows : Dictionary Flow) (before : Option Conversation) (c : Conversation)
    (r : Except Failure Conversation) (k : Pen) : Prop :=
  Either (fun kept => k.page = some { before, kept } ∧
    ∃ version now, kept = { c with version, updatedAt := now }) (fun _ => k.IsWhole flows) r

theorem replaceActive_opens {c : Conversation} (hk : k.IsWhole flows)
    (hf : ∃ f, Dictionary.find? flows c.flowId = some f) :
    (replaceActive c).Keeps (chronicle flows) k (Opens flows none c) := by
  unfold replaceActive
  refine keeps_bind.2 (keeps_store.2 ⟨hk, fun r hr => ?_⟩)
  cases r with
  | error e => exact hr.elim
  | ok ids =>
    refine keeps_bind_of_same (cancelTimers_keeps fun id _ => passes_plain trivial rfl) fun _ => ?_
    refine keeps_store.2 ⟨⟨k.isWhole_away flows, hf⟩, fun r hr => ?_⟩
    cases r with
    | error e => exact k.isWhole_away flows
    | ok kept =>
      obtain rfl : kept = _ := hr
      exact ⟨rfl, 1, c.updatedAt, rfl⟩

theorem save_opens {c b : Conversation} (hk : k.IsWhole flows) (hb : k.shown = some b)
    (hid : b.id = c.id) (hflow : b.flowId = c.flowId) :
    (store (.save c b.version)).Keeps (chronicle flows) k (Opens flows (some b) c) := by
  refine keeps_store.2 ⟨⟨hk, b, hb, hid, rfl, hflow⟩, fun r hr => ?_⟩
  cases r with
  | error e => exact k.isWhole_away flows
  | ok kept =>
    obtain ⟨now, rfl⟩ := hr
    refine ⟨?_, _, now, rfl⟩
    show some ({ before := k.shown, kept := _ } : Page) = _
    rw [hb]

/-- Entries that go on with the trail are told on the page. -/
theorem writeHistory_told {es : List Entry} {p : Page} (hp : k.page = some p)
    (hown : ∀ e ∈ es, e.conversation = p.kept.id)
    (htrail : ∀ f last, Dictionary.find? flows p.kept.flowId = some f → Begins p.before f last →
      f.IsTrail (lastEntered last p.told) es) :
    (writeHistory es).Keeps (chronicle flows) k fun r k' =>
      Either (fun _ => k'.page = some { p with told := p.told ++ es }) (fun _ => False) r := by
  induction es generalizing k p with
  | nil =>
    show k.page = some { p with told := p.told ++ [] }
    rw [List.append_nil]
    exact hp
  | cons e es ih =>
    refine keeps_bind.2 (keeps_ask.2 ⟨Or.inr ⟨p, hp, hown e List.mem_cons_self,
      fun f last hf hlast => (htrail f last hf hlast).1⟩, fun r _ => ?_⟩)
    have hnext : (k.after (.store (.append e)) r).page = some { p with told := p.told ++ [e] } := by
      show k.page.map _ = _
      rw [hp]
      rfl
    refine (ih hnext (fun e' he' => hown e' (List.mem_cons_of_mem _ he')) ?_).mono ?_
    · intro f last hf hlast
      rw [lastEntered_append]
      exact (htrail f last hf hlast).2
    · intro r k' hk'
      cases r with
      | error e => exact hk'
      | ok u => simpa using hk'

/-- What must be so before a turn runs from a node: it has the conversation that was shown in hand,
or a new one, and what it has told so far leads from there to the node. -/
structure Pen.Holds (k : Pen) (flows : Dictionary Flow) (before : Option Conversation) (t : Turn)
    (n : Node) : Prop where
  away : k.page = none
  flow : Dictionary.find? flows t.conversation.flowId = some t.flow
  node : n ∈ t.flow.nodes
  own : ∀ e ∈ t.history, e.conversation = t.conversation.id
  leads : ∀ last, Begins before t.flow last →
    t.flow.IsTrail last t.history ∧ lastEntered last t.history = some n.id ∧
      t.conversation.entersOnResume = false
  fresh : t.isNew = true → before = none
  read : t.isNew = false → ∃ b, before = some b ∧ k.shown = some b ∧ b.id = t.conversation.id ∧
    b.version = t.version ∧ b.flowId = t.conversation.flowId

variable {before : Option Conversation} {t u : Turn} {n : Node}

theorem keep_opens (h : k.Holds flows before t n) (hs : t.Same u) :
    (keep u).Keeps (chronicle flows) k (Opens flows before u.conversation) := by
  have hk : k.IsWhole flows := Pen.isWhole_of_none h.away
  unfold keep
  rw [hs.isNew]
  split
  · rename_i hnew
    obtain rfl := h.fresh hnew
    exact replaceActive_opens hk ⟨t.flow, hs.flowId ▸ h.flow⟩
  · rename_i hnew
    obtain ⟨b, rfl, hshown, hid, hversion, hflowId⟩ := h.read (by simpa using hnew)
    rw [hs.version, ← hversion]
    exact save_opens hk hshown (hid.trans hs.id.symm) (hflowId.trans hs.flowId.symm)

/-- What a turn has told goes on with the trail of its conversation, and its conversation stands
behind it. -/
theorem told_of_walks (h : k.Holds flows before t n) (hs : t.Same u)
    (hw : t.Walks n (.settled u)) : (∀ e ∈ u.history, e.conversation = u.conversation.id) ∧
      ∀ f last, Dictionary.find? flows u.conversation.flowId = some f → Begins before f last →
        f.IsTrail last u.history ∧ u.conversation.ComesAfter f (lastEntered last u.history) := by
  obtain ⟨told, hu, htrail, hown, hafter⟩ := hw
  rw [hu]
  refine ⟨fun e he => ?_, fun f last hf hlast => ?_⟩
  · rw [hs.id]
    rcases List.mem_append.1 he with he | he
    · exact h.own e he
    · exact hown e he
  · obtain rfl : t.flow = f := by
      rw [hs.flowId, h.flow] at hf
      exact Option.some.inj hf
    obtain ⟨hbefore, hentered, henters⟩ := h.leads last hlast
    rw [isTrail_append, lastEntered_append, hentered]
    exact ⟨⟨hbefore, htrail⟩, hafter henters⟩

theorem settleTimer_chronicles (t : Turn) (kept : Conversation) (hk : k.IsWhole flows) :
    Chronicles flows k (settleTimer t kept) := by
  unfold settleTimer
  split
  · split
    · exact keeps_ask.2 ⟨hk, fun _ _ => k.isWhole_away flows⟩
    · exact hk
  · exact keeps_ask.2 ⟨hk, fun _ _ => k.isWhole_away flows⟩

theorem commit_chronicles (s : Settings) (h : k.Holds flows before t n) (hs : t.Same u)
    (hw : t.Walks n (.settled u)) : Chronicles flows k (commit s u) := by
  unfold commit
  refine keeps_bind.2 (keeps_attempt.2 ((keep_opens h hs).mono fun r k' hk' => ?_))
  refine either_ok.2 ?_
  cases r with
  | error e => cases e <;> exact hk'
  | ok kept =>
    obtain ⟨hpage, version, now, rfl⟩ := hk'
    obtain ⟨hown, htold⟩ := told_of_walks h hs hw
    refine keeps_bind.2 ((writeHistory_told hpage hown fun f last hf hlast =>
      (htold f last hf hlast).1).mono fun r k' hk' => ?_)
    cases r with
    | error e => exact hk'.elim
    | ok v =>
      have hk' : k'.page = some _ := hk'
      have hwhole : k'.IsWhole flows := by
        intro p hp
        obtain rfl := Option.some.inj (hk'.symm.trans hp)
        intro f last hf hlast
        obtain ⟨hstands, hparked⟩ := (htold f last hf hlast).2
        exact ⟨hstands, hparked⟩
      exact (settleTimer_chronicles u _ hwhole).andThen fun _ _ hk => hk

theorem noteFailure_chronicles (t : Turn) (n : Node) (resuming : Bool) (f : Failure)
    (hk : k.page = none) : Chronicles flows k (noteFailure t n resuming f) := by
  unfold noteFailure
  refine keeps_bind.2 (keeps_ofExcept.2 ?_)
  cases (if resuming then lastMessage t else .ok none : Except Failure (Option String)) with
  | error e => exact Pen.isWhole_of_none hk
  | ok input =>
    refine keeps_bind_of_same (writeHistory_keeps fun e he => ?_) fun _ => Pen.isWhole_of_none hk
    rw [List.mem_singleton.1 he]
    refine ⟨Or.inl rfl, fun r => ?_⟩
    cases k
    cases hk
    rfl

theorem runTurn_chronicles (s : Settings) (before : Option Conversation) (resuming : Bool)
    (ho : t.IsOpen) (h : k.Holds flows before t n) :
    Chronicles flows k (runTurn s t n resuming) := by
  unfold runTurn
  refine keeps_bind.2 ((keeps_outside (fun q => passes_plain trivial h.away)
    ((Turn.advance_yields s.further ho n resuming).and
      (Turn.advance_walks s.further t h.node resuming))).mono ?_)
  rintro r k' ⟨hr, rfl⟩
  cases r with
  | error e => exact Pen.isWhole_of_none h.away
  | ok course =>
    obtain ⟨hsettled, hwalks⟩ := hr
    cases course with
    | settled u => exact (commit_chronicles s h hsettled.1 hwalks).andThen fun _ _ hk => hk
    | broken u f => exact (noteFailure_chronicles u n resuming f h.away).andThen fun _ _ hk => hk

/-! ## The operations -/

theorem firstTurn_chronicles (s : Settings) (contact : Contact) {flowId : String} {f : Flow}
    {n : Node} (text name phone : Option String) (hk : k.IsWhole flows)
    (hf : Dictionary.find? flows flowId = some f) (hn : f.start? = some n) :
    Chronicles flows k (firstTurn s contact flowId f n text name phone) := by
  unfold firstTurn
  refine plain_bind trivial hk fun now _ => plain_bind trivial (k.isWhole_away flows) fun id _ => ?_
  refine Chronicles.andThen (runTurn_chronicles s none false ⟨rfl, rfl⟩ ?_)
    fun _ _ hk => hk
  refine ⟨rfl, hf, List.mem_of_find?_eq_some hn, ?_, ?_, fun _ => rfl, fun h => by cases h⟩
  · intro e he
    rw [List.mem_singleton.1 he]
    rfl
  · rintro last rfl
    exact ⟨⟨⟨n, hn, rfl⟩, trivial⟩, rfl, rfl⟩

theorem startHeld_chronicles (s : Settings) (contact : Contact) (flowId : String)
    (text name phone : Option String) (hk : k.IsWhole flows) :
    Chronicles flows k (startHeld s contact flowId text name phone) := by
  have hnothing := k.isWhole_away flows
  unfold startHeld
  refine plain_store_bind trivial hk fun found hfound => ?_
  cases henabled : found.filter (·.enabled) with
  | none => exact hnothing
  | some f =>
    obtain ⟨rfl, -⟩ := Option.filter_eq_some_iff.1 henabled
    cases hn : f.start? with
    | none => simp only [hn]; exact hnothing
    | some n =>
      simp only [hn]
      split
      · exact firstTurn_chronicles s contact text name phone hnothing hfound hn
      · exact hnothing

/-- A message leads from where the conversation stands to its node, which is entered where it was
not. -/
theorem holds_answeredTurn {c : Conversation} {f : Flow} {n : Node} (now : Moment)
    (text : Option String) (hk : k.page = none) (hshown : k.shown = some c)
    (hf : Dictionary.find? flows c.flowId = some f) (hn : f.node? c.node = some n) :
    k.Holds flows (some c) (answeredTurn now c f n text) n := by
  have hid : n.id = c.node := Flow.node?_id hn
  have hmem := Flow.node?_mem hn
  unfold answeredTurn
  dsimp only
  split
  · rename_i henters
    refine ⟨hk, hf, hmem, ?_, fun last hlast => ?_,
      (fun h => by cases h), fun _ => ⟨c, rfl, hshown, rfl, rfl, rfl⟩⟩
    · intro e he
      rcases List.mem_pair.1 he with rfl | rfl <;> rfl
    · obtain ⟨id, rfl, hleads⟩ := Conversation.ComesAfter.stands hlast
      rw [if_pos henters, ← hid] at hleads
      exact ⟨⟨trivial, hleads, trivial⟩, rfl, rfl⟩
  · rename_i henters
    refine ⟨hk, hf, hmem, ?_, fun last hlast => ?_,
      (fun h => by cases h), fun _ => ⟨c, rfl, hshown, rfl, rfl, rfl⟩⟩
    · intro e he
      rw [List.mem_singleton.1 he]
      rfl
    · obtain ⟨id, rfl, hstands⟩ := Conversation.ComesAfter.stands hlast
      rw [if_neg henters] at hstands
      exact ⟨⟨trivial, trivial⟩, congrArg some (hstands.symm.trans hid.symm), rfl⟩

theorem resumeHeld_chronicles (s : Settings) (contact : Contact) (text : Option String)
    (hk : k.IsWhole flows) : Chronicles flows k (resumeHeld s contact text) := by
  unfold resumeHeld
  refine shown_then hk id (fun _ => rfl) fun active hactive => ?_
  have hnothing : ∀ shown, ({ shown } : Pen).IsWhole flows := fun _ => Pen.isWhole_of_none rfl
  cases active with
  | none => exact hnothing none
  | some c =>
    have hact : c.isActive = true := hactive
    show Chronicles flows { shown := some c } (if c.awaitsInput then _ else _)
    split
    · refine plain_store_bind trivial (hnothing _) fun found hfound => ?_
      cases hnode : found.bind fun f => (f.node? c.node).map (f, ·) with
      | none => exact hnothing _
      | some p =>
        obtain ⟨f, n⟩ := p
        obtain ⟨rfl, hn⟩ := node_of_found hnode
        refine plain_bind trivial (hnothing _) fun now _ => ?_
        have hopen : (answeredTurn now c f n text).IsOpen := by
          unfold answeredTurn
          dsimp only
          split <;> exact ⟨hact, rfl⟩
        exact (runTurn_chronicles s (some c) _ hopen
          (holds_answeredTurn now text rfl rfl hfound hn)).andThen fun _ _ hk => hk
    · exact hnothing _

theorem continueHeld_chronicles (s : Settings) (w : Wake) (hk : k.IsWhole flows) :
    Chronicles flows k (continueHeld s w) := by
  unfold continueHeld
  refine shown_then hk id (fun _ => rfl) fun found _ => ?_
  have hnothing : ∀ shown, ({ shown } : Pen).IsWhole flows := fun _ => Pen.isWhole_of_none rfl
  show Chronicles flows { shown := found } _
  cases hawaited : found.filter (isAwaited w) with
  | none => exact hnothing _
  | some c =>
    obtain ⟨rfl, hawait⟩ := Option.filter_eq_some_iff.1 hawaited
    simp only [isAwaited, Bool.and_eq_true, beq_iff_eq, Bool.not_eq_true'] at hawait
    obtain ⟨⟨⟨hact, hflow⟩, hstands⟩, hwait⟩ := hawait
    have hparked : c.isParked = true := by simp [Conversation.isParked, hact, hwait]
    refine plain_store_bind trivial (hnothing _) fun given hgiven => ?_
    cases hnode : given.bind fun f => (f.node? w.node).map (f, ·) with
    | none => exact hnothing _
    | some p =>
      obtain ⟨f, n⟩ := p
      obtain ⟨rfl, hn⟩ := node_of_found hnode
      have hid : n.id = c.node := (Flow.node?_id hn).trans hstands.symm
      refine plain_bind trivial (hnothing _) fun now _ => ?_
      refine Chronicles.andThen (runTurn_chronicles s (some c) true ⟨hact, rfl⟩ ?_)
        fun _ _ hk => hk
      refine ⟨rfl, ?_, Flow.node?_mem hn, ?_, fun last hlast => ?_,
        (fun h => by cases h), fun _ => ⟨c, rfl, rfl, rfl, rfl, rfl⟩⟩
      · show Dictionary.find? flows c.flowId = some f
        rw [hflow]
        exact hgiven
      · intro e he
        rw [List.mem_singleton.1 he]
        rfl
      · obtain ⟨⟨id, rfl, hstands'⟩, henters⟩ := hlast
        have hclear := henters hparked
        rw [hclear] at hstands'
        have hlast : some id = some n.id := congrArg some (hstands'.symm.trans hid.symm)
        exact ⟨⟨hlast, trivial⟩, hlast, hclear⟩

theorem flowFor_chronicles (tenant : String) (text : Option String) (hk : k.IsWhole flows) :
    Chronicles flows k (flowFor tenant text) := by
  unfold flowFor
  split
  · exact hk
  · exact plain_store_bind trivial hk fun _ _ => k.isWhole_away flows

theorem resumeAwaiting_chronicles (s : Settings) (contact : Contact) (text : Option String)
    (hk : k.IsWhole flows) : Chronicles flows k (resumeAwaiting s contact text) := by
  unfold resumeAwaiting
  refine shown_then hk id (fun _ => rfl) fun active _ => ?_
  have hnothing : ({ shown := active } : Pen).IsWhole flows := Pen.isWhole_of_none rfl
  show Chronicles flows { shown := active } _
  split
  · exact (resumeHeld_chronicles s contact text hnothing).andThen fun _ _ hk => hk
  · exact hnothing

theorem startAsked_chronicles (s : Settings) (contact : Contact) (text name phone : Option String)
    (resumed : Option TurnResult) (hk : k.IsWhole flows) :
    Chronicles flows k (startAsked s contact text name phone resumed) := by
  unfold startAsked
  refine (flowFor_chronicles contact.tenant text hk).andThen fun flow k hk => ?_
  split
  · exact hk
  · exact (startHeld_chronicles s contact _ text name phone hk).andThen fun _ _ hk => hk

theorem receiveHeld_chronicles (s : Settings) (contact : Contact) (text name phone : Option String)
    (hk : k.IsWhole flows) : Chronicles flows k (do
      let resumed ← resumeAwaiting s contact text
      match resumed.filter fun r => r.success && r.hasResponse with
      | some r => pure r
      | none => startAsked s contact text name phone resumed) := by
  refine (resumeAwaiting_chronicles s contact text hk).andThen fun resumed k hk => ?_
  split
  · exact hk
  · exact startAsked_chronicles s contact text name phone resumed hk

theorem cancelHeld_chronicles (contact : Contact) (hk : k.IsWhole flows) : Chronicles flows k (do
    let ended ← store (.deactivate contact)
    cancelTimers ended
    pure (!ended.isEmpty)) := by
  refine plain_store_bind trivial hk fun ids _ => ?_
  exact keeps_bind_of_same (cancelTimers_keeps fun id _ => passes_plain trivial rfl) fun _ =>
    k.isWhole_away flows

end Parley.Desk
