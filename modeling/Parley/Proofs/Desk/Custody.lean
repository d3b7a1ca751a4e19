import Parley.Proofs.Desk.Conduct
import Parley.Proofs.Turn.Parking

/-!
# What is done while a key is held

`Desk.custody` is the protocol of work that holds a key for as long as it looks at the store or
writes. Before it holds the key it asks for nothing else, and once it has given the key back it
delivers what it came to at most (`Desk.Stand`). While it holds the key (`Desk.Hold`):

* it writes a conversation over the one that it was shown last, and keeps a new one only right after
  it has ended the active ones of the key;
* it sets the timer of a conversation that it has kept to wait for one, and cancels the timers of
  those that it has ended, before it gives the key back or writes anything else;
* a conversation is kept to wait for a timer only at a pause of its flow;
* that a timer went off is told once, by work that a timer has begun, of the conversation that this
  work has kept, which waited for a timer when it was shown.

`Errand.work_custodial` says so of every errand. It adds that work that was refused nothing comes to
no result that tells of a concurrent update.
-/

namespace Parley.Desk

open Program

/-- A conversation waits for a timer only at a pause of its flow. -/
def Paused (flows : Dictionary Flow) (c : Conversation) : Prop :=
  c.isParked = true → ∃ f, Dictionary.find? flows c.flowId = some f ∧ f.PausesAt c.node

/-- What is so far done and not done by work that holds a key. -/
structure Hold where
  /-- The conversation that it was shown last, unless it has written since. -/
  shown : Option Conversation := none
  /-- Whether it has ended the active conversations of the key and kept none since. -/
  cleared : Bool := false
  /-- A conversation that was kept to wait for a timer which is not set yet. -/
  owed : Option Conversation := none
  /-- Conversations that are over, whose timers are not cancelled yet. -/
  left : List String := []
  /-- A conversation of which it may be told that its timer went off. -/
  late : Option String := none

namespace Hold

/-- No timer is left to be set or cancelled. -/
def IsClear (h : Hold) : Prop := h.owed = none ∧ h.left = []

/-- A conversation was kept, by work that a timer has begun or by other work. -/
def keeping (timed : Bool) (c : Conversation) : Hold where
  owed := if c.isParked then some c else none
  left := if c.isActive then [] else [c.id]
  late := if timed then some c.id else none

/-- Whether a question may be asked by work that holds a key. -/
def May (flows : Dictionary Flow) (key : Option String) (timed : Bool) (h : Hold) : Ask → Prop
  | .store (.create c) =>
    h.IsClear ∧ h.cleared = true ∧ timed = false ∧ key = some c.key ∧ Paused flows c
  | .store (.save c version) =>
    h.IsClear ∧ Paused flows c ∧ ∃ b, h.shown = some b ∧ b.id = c.id ∧ b.version = version ∧
      b.contact = c.contact ∧ b.isActive = true ∧ (timed = true → b.isParked = true)
  | .store (.deactivate contact) => h.IsClear ∧ key = some contact.key
  | .store (.append e) => e.action = .timeout → h.late = some e.conversation
  | .schedule id _ w => ∃ c, h.owed = some c ∧ id = c.id ∧ w = c.wake
  | .cancelTimer id => h.left.head? = some id
  | .release _ => h.IsClear
  | .acquire _ | .deliver _ _ => False
  | _ => True

end Hold

/-- How far a piece of work has got. -/
inductive Stand where
  /-- It needs no key, and only looks at the store. -/
  | aloof
  | waiting
  | inside (h : Hold)
  /-- It has given its key back. -/
  | gone
  /-- A write was refused. -/
  | refused

namespace Stand

/-- Whether a question may be asked. -/
def May (flows : Dictionary Flow) (key : Option String) (timed : Bool) : Stand → Ask → Prop
  | aloof, .store (.enabledFlows _) | aloof, .store (.active _) => True
  | waiting, .acquire k => key = some k
  | inside h, q => h.May flows key timed q
  | gone, .deliver _ _ => True
  | refused, _ => True
  | _, _ => False

/-- What may be asked, standing by standing. -/
theorem may_cases {flows : Dictionary Flow} {key : Option String} {timed : Bool} {s : Stand} {q : Ask}
    (hmay : s.May flows key timed q) (hcalm : s ≠ refused) :
    (∃ h, s = inside h ∧ h.May flows key timed q) ∨
    (s = aloof ∧ ((∃ tenant, q = .store (.enabledFlows tenant)) ∨
      ∃ contact, q = .store (.active contact))) ∨
    (s = waiting ∧ ∃ k, q = .acquire k ∧ key = some k) ∨
    (s = gone ∧ ∃ c t, q = .deliver c t) := by
  cases s with
  | inside h => exact Or.inl ⟨h, rfl, hmay⟩
  | aloof =>
    refine Or.inr (Or.inl ⟨rfl, ?_⟩)
    cases q with
    | store q =>
      cases q with
      | enabledFlows tenant => exact Or.inl ⟨tenant, rfl⟩
      | active contact => exact Or.inr ⟨contact, rfl⟩
      | _ => exact hmay.elim
    | _ => exact hmay.elim
  | waiting =>
    cases q with
    | acquire k => exact Or.inr (Or.inr (Or.inl ⟨rfl, k, rfl, hmay⟩))
    | _ => exact hmay.elim
  | gone =>
    cases q with
    | deliver c t => exact Or.inr (Or.inr (Or.inr ⟨rfl, c, t, rfl⟩))
    | _ => exact hmay.elim
  | refused => exact absurd rfl hcalm

/-- The standing after an answer. -/
def after (timed : Bool) : Stand → (q : Ask) → q.Answer → Stand
  | waiting, .acquire _, _ => inside {}
  | inside h, .store (.active _), .ok c => inside { h with shown := c }
  | inside h, .store (.conversation _), .ok c => inside { h with shown := c }
  | inside _, .store (.create _), .ok c => inside (.keeping timed c)
  | inside _, .store (.create _), .error _ => refused
  | inside _, .store (.save _ _), .ok c => inside (.keeping timed c)
  | inside _, .store (.save _ _), .error _ => refused
  | inside h, .store (.deactivate _), .ok ids =>
    inside { h with shown := none, cleared := true, left := ids }
  | inside h, .store (.append e), _ =>
    if e.action = .timeout then inside { h with late := none } else inside h
  | inside h, .schedule _ _ _, _ => inside { h with owed := none }
  | inside h, .cancelTimer _, _ => inside { h with left := h.left.tail }
  | inside _, .release _, _ => gone
  | s, _, _ => s

/-- Nothing is left to be done but to give the key back. -/
def IsClear : Stand → Prop
  | inside h => h.IsClear
  | refused => True
  | _ => False

/-- Work may end here. -/
def IsLast : Stand → Prop
  | aloof | gone | refused => True
  | _ => False

/-- Work holds its key or waits for it. -/
def IsLined : Stand → Prop
  | waiting | inside _ => True
  | _ => False

end Stand

/-- What an answer can be relied on to be, where the store has certain flows. -/
def Ask.HearsIn (flows : Dictionary Flow) : (q : Ask) → q.Answer → Prop
  | .store (.flow _ id), .ok (some f) => Dictionary.find? flows id = some f
  | .store (.deactivate _), .error _ => False
  | q, r => q.Hears r

/-- The protocol of work for a key, begun by a timer or not. -/
def custody (flows : Dictionary Flow) (key : Option String) (timed : Bool) :
    Protocol Access Stand where
  may := Stand.May flows key timed
  hears := Ask.HearsIn flows
  after := Stand.after timed

variable {α : Type} {flows : Dictionary Flow} {key : Option String} {timed : Bool} {h : Hold}

/-- Once a write was refused anything goes. -/
theorem keeps_of_refused (work : Work α) :
    work.Keeps (custody flows key timed) .refused fun _ s => s = .refused := by
  induction work with
  | done a => rfl
  | fail e => rfl
  | ask q next ih => exact ⟨trivial, fun r _ => ih r⟩

/-! ## Results -/

/-- What a turn comes to that was refused. -/
def concurrentUpdate : String := "Concurrent update"

/-- A text that begins otherwise does not tell of a concurrent update. -/
theorem ne_concurrentUpdate {text : String} (h : text.toList.head? ≠ some 'C') :
    text ≠ concurrentUpdate := by
  rintro rfl
  exact h (by decide)

theorem internalError_ne (id : String) : "Internal error at node " ++ id ≠ concurrentUpdate :=
  ne_concurrentUpdate (by simp)

theorem notFound_ne (id : String) : "Flow " ++ id ++ " not found or disabled" ≠ concurrentUpdate :=
  ne_concurrentUpdate (by simp)

theorem refusal_ne (f : Flow) : f.refusal ≠ concurrentUpdate := by
  refine ne_concurrentUpdate ?_
  simp [Flow.refusal, refusalText]

/-- The standing is clear, and a result that tells of a concurrent update was refused. -/
structure Served (r : Except Failure TurnResult) (s : Stand) : Prop where
  clear : s.IsClear
  calm : ∀ t, r = .ok t → t.error = some concurrentUpdate → s = .refused

theorem served_error {e : Failure} {s : Stand} (hs : s.IsClear) : Served (.error e) s :=
  ⟨hs, fun t ht => by cases ht⟩

theorem served_failed {error : String} {s : Stand} (hs : s.IsClear) (he : error ≠ concurrentUpdate)
    (conversation node : Option String) : Served (.ok (.failed error conversation node)) s := by
  refine ⟨hs, ?_⟩
  rintro t ⟨⟩ ht
  exact absurd (Option.some.inj ht) he

/-- Whatever refused work comes to. -/
theorem served_refused (r : Except Failure TurnResult) : Served r .refused :=
  ⟨trivial, fun _ _ _ => rfl⟩

/-- Work that holds a key serves whoever has asked for it. -/
def Serves (flows : Dictionary Flow) (key : Option String) (timed : Bool) (s : Stand)
    (work : Work TurnResult) : Prop := work.Keeps (custody flows key timed) s Served

/-! ## Questions -/

theorem inside_outside (q : Outside.Ask) :
    Passes (custody flows key timed) (.inside h) (.outside q) := ⟨trivial, fun _ => rfl⟩

theorem inside_now : Passes (custody flows key timed) (.inside h) .now := ⟨trivial, fun _ => rfl⟩

theorem inside_freshId : Passes (custody flows key timed) (.inside h) .freshId :=
  ⟨trivial, fun _ => rfl⟩

theorem inside_flow (tenant id : String) :
    Passes (custody flows key timed) (.inside h) (.store (.flow tenant id)) :=
  ⟨trivial, fun _ => rfl⟩

theorem inside_enabledFlows (tenant : String) :
    Passes (custody flows key timed) (.inside h) (.store (.enabledFlows tenant)) :=
  ⟨trivial, fun _ => rfl⟩

theorem inside_append {e : Entry} (he : e.action ≠ .timeout) :
    Passes (custody flows key timed) (.inside h) (.store (.append e)) :=
  ⟨fun ht => absurd ht he, fun _ => if_neg he⟩

/-- Work is shown a conversation, or none. -/
theorem shown_bind {q : Store.Ask} {f : q.Answer → Work α} {Q : Except Failure α → Stand → Prop}
    (hmay : h.May flows key timed (.store q)) (herror : ∀ e, Q (.error e) (.inside h))
    (hafter : ∀ e, (Stand.inside h).after timed (.store q) (.error e) = .inside h)
    (hf : ∀ a, (Ask.store q).HearsIn flows (.ok a) →
      (f a).Keeps (custody flows key timed) ((Stand.inside h).after timed (.store q) (.ok a)) Q) :
    (store q >>= f).Keeps (custody flows key timed) (.inside h) Q := by
  refine keeps_bind.2 (keeps_store.2 ⟨hmay, fun r hr => ?_⟩)
  cases r with
  | error e =>
    show Q (.error e) ((Stand.inside h).after timed (.store q) (.error e))
    rw [hafter]
    exact herror e
  | ok a => exact hf a hr

/-- All timers that are left to be cancelled are cancelled. -/
theorem cancelTimers_custodial (ids : List String) :
    (cancelTimers ids).Keeps (custody flows key timed) (.inside { h with left := ids })
      fun r s => Either (fun _ => s = .inside { h with left := [] }) (fun _ => False) r := by
  induction ids with
  | nil => exact rfl
  | cons id ids ih => exact ⟨rfl, fun _ _ => ih⟩

/-- Entries are written that tell of a timer once at most, and only where that may be told. -/
theorem writeHistory_custodial {es : List Entry} :
    ∀ {h : Hold}, (es.filter (·.action = .timeout)).length ≤ 1 →
      (∀ e ∈ es.filter (·.action = .timeout), h.late = some e.conversation) →
      (writeHistory es).Keeps (custody flows key timed) (.inside h) fun r s =>
        Either (fun _ => ∃ late, s = .inside { h with late }) (fun _ => False) r := by
  induction es with
  | nil => exact fun {h} _ _ => ⟨h.late, rfl⟩
  | cons e es ih =>
    intro h hone hlate
    by_cases he : e.action = .timeout
    · rw [List.filter_cons_of_pos (by simpa using he)] at hone hlate
      have hnone : es.filter (·.action = .timeout) = [] := by
        rw [← List.length_eq_zero_iff]
        simpa using hone
      refine keeps_bind.2 (keeps_ask.2 ⟨fun _ => hlate e List.mem_cons_self, fun r _ => ?_⟩)
      have hafter : (Stand.inside h).after timed (.store (.append e)) r =
          .inside { h with late := none } := if_pos he
      show (writeHistory es).Keeps _ ((Stand.inside h).after timed (.store (.append e)) r) _
      rw [hafter]
      exact ih (h := { h with late := none }) (by simp [hnone]) (by simp [hnone])
    · rw [List.filter_cons_of_neg (by simpa using he)] at hone hlate
      exact (inside_append he).keeps_bind fun _ _ => ih hone hlate

/-! ## Keeping what a turn has done -/

/-- The conversation that was kept has the flags and the id of another, or the write was refused. -/
def KeptAs (timed : Bool) (c : Conversation) (r : Except Failure Conversation) (s : Stand) : Prop :=
  Either (fun kept => s = .inside (.keeping timed kept) ∧ kept.id = c.id ∧
    kept.isActive = c.isActive ∧ kept.awaitsInput = c.awaitsInput) (fun _ => s = .refused) r

theorem replaceActive_custodial {c : Conversation} (hclear : h.IsClear) (hkey : key = some c.key)
    (hpaused : Paused flows c) :
    (replaceActive c).Keeps (custody flows key false) (.inside h) (KeptAs false c) := by
  unfold replaceActive
  refine keeps_bind.2 (keeps_store.2 ⟨⟨hclear, hkey⟩, fun r hr => ?_⟩)
  cases r with
  | error e => exact hr.elim
  | ok ids =>
    refine keeps_bind.2 ((cancelTimers_custodial (h := { h with shown := none, cleared := true })
      ids).mono fun r s hs => ?_)
    cases r with
    | error e => exact hs.elim
    | ok u =>
      obtain rfl : s = _ := hs
      refine keeps_store.2 ⟨⟨⟨hclear.1, rfl⟩, rfl, rfl, hkey, hpaused⟩, fun r hr => ?_⟩
      cases r with
      | error e => exact rfl
      | ok kept =>
        obtain rfl : kept = _ := hr
        exact ⟨rfl, rfl, rfl, rfl⟩

theorem save_custodial {c b : Conversation} (hclear : h.IsClear) (hpaused : Paused flows c)
    (hb : h.shown = some b) (hid : b.id = c.id) (hcontact : b.contact = c.contact)
    (hact : b.isActive = true) (htimed : timed = true → b.isParked = true) :
    (store (.save c b.version)).Keeps (custody flows key timed) (.inside h) (KeptAs timed c) := by
  refine keeps_store.2 ⟨⟨hclear, hpaused, b, hb, hid, rfl, hcontact, hact, htimed⟩, fun r hr => ?_⟩
  cases r with
  | error e => exact rfl
  | ok kept =>
    obtain ⟨now, rfl⟩ := hr
    exact ⟨rfl, rfl, rfl, rfl⟩

/-- What must be so before a turn runs from a node. -/
structure InHand (flows : Dictionary Flow) (key : Option String) (timed : Bool) (h : Hold) (t : Turn)
    (n : Node) : Prop where
  clear : h.IsClear
  isOpen : t.IsOpen
  node : n ∈ t.flow.nodes
  flow : Dictionary.find? flows t.conversation.flowId = some t.flow
  untold : timed = false → t.timeouts = []
  once : t.timeouts.length ≤ 1
  own : ∀ e ∈ t.timeouts, e.conversation = t.conversation.id
  fresh : t.isNew = true → timed = false ∧ key = some t.conversation.key
  read : t.isNew = false → ∃ b, h.shown = some b ∧ b.id = t.conversation.id ∧
    b.version = t.version ∧ b.contact = t.conversation.contact ∧ b.isActive = true ∧
    (timed = true → b.isParked = true)

variable {t u : Turn} {n : Node} {s : Settings}

theorem paused_of_parks (ht : InHand flows key timed h t n) (hsame : t.Same u)
    (hparks : t.Parks (.settled u)) : Paused flows u.conversation := by
  intro hp
  exact ⟨t.flow, by rw [hsame.flowId]; exact ht.flow, hparks.2 hp⟩

theorem keep_custodial (ht : InHand flows key timed h t n) (hsame : t.Same u)
    (hparks : t.Parks (.settled u)) :
    (keep u).Keeps (custody flows key timed) (.inside h) (KeptAs timed u.conversation) := by
  have hpaused := paused_of_parks ht hsame hparks
  unfold keep
  rw [hsame.isNew]
  split
  · rename_i hnew
    obtain ⟨rfl, hkey⟩ := ht.fresh hnew
    refine replaceActive_custodial ht.clear ?_ hpaused
    rw [hkey]
    exact congrArg (fun contact => some contact.key) hsame.contact.symm
  · rename_i hnew
    obtain ⟨b, hb, hid, hversion, hcontact, hact, htimed⟩ := ht.read (by simpa using hnew)
    rw [hsame.version, ← hversion]
    exact save_custodial ht.clear hpaused hb (hid.trans hsame.id.symm)
      (hcontact.trans hsame.contact.symm) hact htimed

theorem settleTimer_custodial {kept : Conversation} {late : Option String} (hr : u.Rests)
    (hact : kept.isActive = u.conversation.isActive)
    (hwait : kept.awaitsInput = u.conversation.awaitsInput) :
    (settleTimer u kept).Keeps (custody flows key timed)
      (.inside { Hold.keeping timed kept with late })
      fun r s => Either (fun _ => s.IsClear ∧ s ≠ .refused) (fun _ => False) r := by
  unfold settleTimer
  split
  · rename_i hkept
    have htimed := hr.timed (hact ▸ hkept)
    rw [← hwait] at htimed
    cases hd : u.delay with
    | none =>
      rw [hd] at htimed
      have hawaits : kept.awaitsInput = true := by simpa using htimed
      refine ⟨⟨?_, ?_⟩, by simp⟩
      · simp [Hold.keeping, Conversation.isParked, hawaits]
      · simp [Hold.keeping, hkept]
    | some seconds =>
      rw [hd] at htimed
      have hawaits : kept.awaitsInput = false := by simpa using htimed
      have hparked : kept.isParked = true := by simp [Conversation.isParked, hkept, hawaits]
      refine keeps_ask.2 ⟨⟨kept, ?_, rfl, rfl⟩, fun _ _ =>
        ⟨⟨rfl, ?_⟩, by simp [custody, Stand.after]⟩⟩
      · simp [Hold.keeping, hparked]
      · simp [Hold.keeping, hkept]
  · rename_i hkept
    have hover : kept.isActive = false := by simpa using hkept
    refine keeps_ask.2 ⟨?_, fun _ _ => ⟨⟨?_, ?_⟩, by simp [custody, Stand.after]⟩⟩
    · simp [custody, Stand.May, Hold.May, Hold.keeping, hover]
    · simp [Hold.keeping, Conversation.isParked, hover]
    · simp [Hold.keeping, hover]

theorem commit_custodial (ht : InHand flows key timed h t n) (hsame : t.Same u) (hr : u.Rests)
    (hparks : t.Parks (.settled u)) : Serves flows key timed (.inside h) (commit s u) := by
  unfold commit
  refine keeps_bind.2 (keeps_attempt.2 ((keep_custodial ht hsame hparks).mono fun r st hst => ?_))
  refine either_ok.2 ?_
  cases r with
  | error e =>
    obtain rfl : st = .refused := hst
    exact (keeps_of_refused _).mono fun r s hs => hs ▸ served_refused r
  | ok kept =>
    obtain ⟨rfl, hid, hact, hwait⟩ := hst
    -- The timer that has begun this work is told of here, if one has.
    have htimeouts : u.history.filter (·.action = .timeout) = t.timeouts := hparks.1
    have hlate : ∀ e ∈ u.history.filter (·.action = .timeout),
        (Hold.keeping timed kept).late = some e.conversation := by
      rw [htimeouts]
      intro e he
      cases timed with
      | false =>
        rw [ht.untold rfl] at he
        cases he
      | true =>
        show some kept.id = _
        rw [ht.own e he, hid, hsame.id]
    refine keeps_bind.2 ((writeHistory_custodial (by rw [htimeouts]; exact ht.once) hlate).mono
      fun r st hst => ?_)
    cases r with
    | error e => exact hst.elim
    | ok v =>
      obtain ⟨late, rfl⟩ := hst
      refine keeps_bind.2 ((settleTimer_custodial hr hact hwait).mono fun r st hst => ?_)
      cases r with
      | error e => exact hst.elim
      | ok v =>
        refine ⟨hst.1, ?_⟩
        rintro t ⟨⟩ herror
        cases herror

theorem noteFailure_custodial (t : Turn) (n : Node) (resuming : Bool) (f : Failure)
    (hclear : h.IsClear) : Serves flows key timed (.inside h) (noteFailure t n resuming f) :=
  noteFailure_keeps (fun _ he => inside_append (by simp [he])) (fun e => served_error hclear)
    fun id node => served_failed (s := .inside h) hclear (internalError_ne node) id node

/-- What a turn came to, beside the conversation as it left it. -/
theorem serves_snd {c : Conversation} {st : Stand} {work : Work TurnResult}
    (hw : Serves flows key timed st work) :
    (work >>= fun result => pure (c, result) : Work (Conversation × TurnResult)).Keeps
      (custody flows key timed) st fun r s => Served (r.map (·.2)) s := by
  refine keeps_bind.2 (Keeps.mono hw fun r s hr => ?_)
  cases r <;> exact hr

theorem runTurn_custodial (resuming : Bool) (ht : InHand flows key timed h t n) :
    (runTurn s t n resuming).Keeps (custody flows key timed) (.inside h)
      fun r s => Served (r.map (·.2)) s := by
  unfold runTurn
  refine keeps_bind.2 ((keeps_outside inside_outside ((Turn.advance_yields s.further ht.isOpen n
    resuming).and (Turn.advance_parks s.further t ht.node resuming))).mono ?_)
  rintro r st ⟨hr, rfl⟩
  cases r with
  | error e => exact served_error ht.clear
  | ok course =>
    obtain ⟨hsettled, hparks⟩ := hr
    cases course with
    | settled u =>
      obtain ⟨hsame, hrests, -⟩ := hsettled
      exact serves_snd (commit_custodial ht hsame hrests hparks)
    | broken u f => exact serves_snd (noteFailure_custodial u n resuming f ht.clear)

theorem serves_of_runTurn (resuming : Bool) (ht : InHand flows key timed h t n) :
    Serves flows key timed (.inside h) (do
      let done ← runTurn s t n resuming
      pure done.2) := by
  refine keeps_bind.2 ((runTurn_custodial resuming ht).mono fun r st hr => ?_)
  cases r <;> exact hr

/-! ## The operations -/

theorem firstTurn_custodial (s : Settings) {contact : Contact} {flowId : String} {f : Flow}
    {n : Node} (text name phone : Option String) (hclear : h.IsClear) (hkey : key = some contact.key)
    (hf : Dictionary.find? flows flowId = some f) (hn : n ∈ f.nodes) :
    Serves flows key false (.inside h) (firstTurn s contact flowId f n text name phone) := by
  unfold firstTurn
  refine inside_now.keeps_bind fun now _ => inside_freshId.keeps_bind fun id _ => ?_
  refine serves_of_runTurn false ⟨hclear, ⟨rfl, rfl⟩, hn, hf, fun _ => ?_, ?_, ?_,
    fun _ => ⟨rfl, hkey⟩, fun hnew => by cases hnew⟩
  · exact Turn.timeouts_record (by decide) _ _ _ _ _
  · rw [Turn.timeouts_record (by decide)]
    exact Nat.zero_le 1
  · rw [Turn.timeouts_record (by decide)]
    intro e he
    cases he

theorem startHeld_custodial (s : Settings) {contact : Contact} (flowId : String)
    (text name phone : Option String) (hkey : key = some contact.key) (hclear : h.IsClear) :
    Serves flows key false (.inside h) (startHeld s contact flowId text name phone) := by
  unfold startHeld
  refine (inside_flow _ _).keeps_store_bind (fun e => served_error hclear) fun found hfound => ?_
  cases henabled : found.filter (·.enabled) with
  | none => exact served_failed (s := .inside h) hclear (notFound_ne flowId) _ _
  | some f =>
    obtain ⟨rfl, -⟩ := Option.filter_eq_some_iff.1 henabled
    cases hn : f.start? with
    | none =>
      simp only [hn]
      exact served_failed (s := .inside h) hclear (refusal_ne f) _ _
    | some n =>
      simp only [hn]
      split
      · exact firstTurn_custodial s text name phone hclear hkey hfound (List.mem_of_find?_eq_some hn)
      · exact served_failed (s := .inside h) hclear (refusal_ne f) _ _

/-- The turn of a conversation that got a message tells of no timer. -/
theorem timeouts_answeredTurn (now : Moment) (c : Conversation) (f : Flow) (n : Node)
    (text : Option String) : (answeredTurn now c f n text).timeouts = [] := by
  unfold answeredTurn
  dsimp only
  split
  · rw [Turn.timeouts_record (by decide), Turn.timeouts_record (by decide)]
    rfl
  · rw [Turn.timeouts_record (by decide)]
    rfl

theorem inHand_answeredTurn {c : Conversation} {f : Flow} {n : Node} (now : Moment)
    (text : Option String) (hclear : h.IsClear) (hshown : h.shown = some c)
    (hact : c.isActive = true) (hf : Dictionary.find? flows c.flowId = some f)
    (hn : f.node? c.node = some n) :
    InHand flows key false h (answeredTurn now c f n text) n := by
  have htold := timeouts_answeredTurn now c f n text
  have same : (answeredTurn now c f n text).IsOpen ∧ (answeredTurn now c f n text).flow = f ∧
      (answeredTurn now c f n text).version = c.version ∧
      (answeredTurn now c f n text).isNew = false ∧
      (answeredTurn now c f n text).conversation.id = c.id ∧
      (answeredTurn now c f n text).conversation.contact = c.contact ∧
      (answeredTurn now c f n text).conversation.flowId = c.flowId := by
    unfold answeredTurn
    dsimp only
    split <;> exact ⟨⟨hact, rfl⟩, rfl, rfl, rfl, rfl, rfl, rfl⟩
  obtain ⟨hopen, hflow, hversion, hnew, hid, hcontact, hflowId⟩ := same
  refine ⟨hclear, hopen, ?_, by rw [hflowId, hflow]; exact hf, fun _ => htold, by simp [htold],
    by simp [htold], fun h => ?_, fun _ => ?_⟩
  · rw [hflow]
    exact Flow.node?_mem hn
  · rw [hnew] at h
    cases h
  · exact ⟨c, hshown, hid.symm, hversion.symm, hcontact.symm, hact, fun h => by cases h⟩

theorem resumeHeld_custodial (s : Settings) {contact : Contact} (text : Option String)
    (hclear : h.IsClear) : Serves flows key false (.inside h) (resumeHeld s contact text) := by
  unfold resumeHeld
  refine shown_bind trivial (fun e => served_error hclear) (fun _ => rfl) fun active hactive => ?_
  cases active with
  | none =>
    exact served_failed (s := .inside { h with shown := none }) hclear
      (ne_concurrentUpdate (by decide)) _ _
  | some c =>
    have hact : c.isActive = true := hactive
    let g : Hold := { h with shown := some c }
    have hg : g.IsClear := hclear
    show Serves flows key false (.inside g) (if c.awaitsInput then _ else _)
    split
    · refine (inside_flow _ _).keeps_store_bind (fun e => served_error hg) fun found hfound => ?_
      cases hnode : found.bind fun f => (f.node? c.node).map (f, ·) with
      | none =>
        exact served_failed (s := .inside g) hg (ne_concurrentUpdate (by decide)) _ _
      | some p =>
        obtain ⟨f, n⟩ := p
        obtain ⟨rfl, hn⟩ := node_of_found hnode
        refine inside_now.keeps_bind fun now _ => ?_
        exact serves_of_runTurn _ (inHand_answeredTurn now text hg rfl hact hfound hn)
    · exact served_failed (s := .inside g) hg (ne_concurrentUpdate (by decide)) _ _

/-- What comes of work that a timer has begun. -/
def ServedLate (r : Except Failure (Option (Conversation × TurnResult))) (s : Stand) : Prop :=
  s.IsClear ∧ ∀ c t, r = .ok (some (c, t)) → t.error = some concurrentUpdate → s = .refused

theorem servedLate_none {s : Stand} (hs : s.IsClear) : ServedLate (.ok none) s :=
  ⟨hs, fun c t ht => by cases ht⟩

theorem servedLate_error {e : Failure} {s : Stand} (hs : s.IsClear) :
    ServedLate (.error e) s :=
  ⟨hs, fun c t ht => by cases ht⟩

theorem continueHeld_custodial (s : Settings) (w : Wake) (hclear : h.IsClear) :
    (continueHeld s w).Keeps (custody flows key true) (.inside h) ServedLate := by
  unfold continueHeld
  refine shown_bind trivial (fun e => servedLate_error hclear) (fun _ => rfl) fun found _ => ?_
  let g : Hold := { h with shown := found }
  have hg : g.IsClear := hclear
  show Keeps (custody flows key true) _ (.inside g) ServedLate
  cases hawaited : found.filter (isAwaited w) with
  | none => exact servedLate_none (s := .inside g) hg
  | some c =>
    obtain ⟨hfound, hawait⟩ := Option.filter_eq_some_iff.1 hawaited
    simp only [isAwaited, Bool.and_eq_true, beq_iff_eq, Bool.not_eq_true'] at hawait
    obtain ⟨⟨⟨hact, hflow⟩, -⟩, hwait⟩ := hawait
    have hparked : c.isParked = true := by simp [Conversation.isParked, hact, hwait]
    refine (inside_flow _ _).keeps_store_bind (fun e => servedLate_error hg) fun given hgiven => ?_
    cases hnode : given.bind fun f => (f.node? w.node).map (f, ·) with
    | none => exact servedLate_none (s := .inside g) hg
    | some p =>
      obtain ⟨f, n⟩ := p
      obtain ⟨rfl, hn⟩ := node_of_found hnode
      have hgiven : Dictionary.find? flows w.flow = some f := hgiven
      refine inside_now.keeps_bind fun now _ => ?_
      let turn : Turn := { conversation := c, flow := f, version := c.version, start := now }
      have hhand : InHand flows key true g (turn.record n .timeout) n := {
        clear := hg
        isOpen := ⟨hact, rfl⟩
        node := Flow.node?_mem hn
        flow := by
          show Dictionary.find? flows c.flowId = some f
          rw [hflow]
          exact hgiven
        untold := fun htimed => by cases htimed
        once := Nat.le_refl 1
        own := by
          intro e he
          rw [List.mem_singleton.1 he]
          rfl
        fresh := fun hnew => by cases hnew
        read := fun _ => ⟨c, hfound, rfl, rfl, rfl, hact, fun _ => hparked⟩ }
      refine keeps_bind.2 ((runTurn_custodial true hhand).mono ?_)
      intro r st hr
      cases r with
      | error e => exact servedLate_error hr.clear
      | ok done =>
        refine ⟨hr.clear, ?_⟩
        rintro c' t ht herror
        cases ht
        exact hr.calm _ rfl herror

/-- Work for which a key is held comes to its end with the key given back. -/
theorem holding_custodial {k : String} (hkey : key = some k) {work : Work α}
    (tells : Except Failure α → Prop)
    (hw : work.Keeps (custody flows key timed) (.inside {}) fun r s =>
      s.IsClear ∧ (tells r → s = .refused)) :
    (holding k work).Keeps (custody flows key timed) .waiting fun r s =>
      (s = .gone ∨ s = .refused) ∧ (tells r → s = .refused) := by
  unfold holding
  refine keeps_bind.2 (keeps_ask.2 ⟨hkey, fun _ _ => keeps_bind.2 (keeps_attempt.2 ?_)⟩)
  refine hw.mono fun r s hr => keeps_bind.2 (keeps_ask.2 ?_)
  obtain ⟨hclear, htells⟩ := hr
  cases s with
  | inside g =>
    refine ⟨hclear, fun _ _ => keeps_ofExcept.2 ⟨Or.inl rfl, fun ht => ?_⟩⟩
    have himpossible := htells ht
    cases himpossible
  | refused => exact ⟨trivial, fun _ _ => keeps_ofExcept.2 ⟨Or.inr rfl, fun _ => rfl⟩⟩
  | _ => exact hclear.elim

theorem resumeAwaiting_custodial (s : Settings) (contact : Contact) (text : Option String)
    (hclear : h.IsClear) :
    (resumeAwaiting s contact text).Keeps (custody flows key false) (.inside h) fun r st =>
      st.IsClear ∧ ∀ t, r = .ok (some t) → t.error = some concurrentUpdate → st = .refused := by
  unfold resumeAwaiting
  refine shown_bind trivial (fun e => ⟨hclear, fun t ht => by cases ht⟩) (fun _ => rfl)
    fun active _ => ?_
  let g : Hold := { h with shown := active }
  have hg : g.IsClear := hclear
  show Keeps (custody flows key false) _ (.inside g) _
  split
  · refine keeps_bind.2 (Keeps.mono (resumeHeld_custodial s text hg) fun r st hr => ?_)
    cases r with
    | error e => exact ⟨hr.clear, fun t ht => by cases ht⟩
    | ok result =>
      refine ⟨hr.clear, ?_⟩
      rintro t ⟨⟩ herror
      exact hr.calm _ rfl herror
  · exact ⟨hg, fun t ht => by cases ht⟩

theorem startAsked_custodial (s : Settings) {contact : Contact} (text name phone : Option String)
    {resumed : Option TurnResult} {st : Stand} (hkey : key = some contact.key) (hst : st.IsClear)
    (hcalm : ∀ t, resumed = some t → t.error = some concurrentUpdate → st = .refused) :
    Serves flows key false st (startAsked s contact text name phone resumed) := by
  cases st with
  | inside h =>
    have hotherwise : Served (.ok (resumed.getD (.failed "No active flow and no trigger matched")))
        (.inside h) := by
      cases resumed with
      | none => exact served_failed hst (ne_concurrentUpdate (by decide)) _ _
      | some t =>
        refine ⟨hst, ?_⟩
        rintro t' ⟨⟩ herror
        exact hcalm t rfl herror
    have hcalm' : ∀ t, resumed = some t → t.error ≠ some concurrentUpdate := by
      intro t ht herror
      have himpossible := hcalm t ht herror
      cases himpossible
    unfold startAsked
    refine keeps_bind.2 ((flowFor_keeps (inside_enabledFlows _)).mono fun r st hr => ?_)
    obtain rfl : st = .inside h := hr
    cases r with
    | error e => exact served_error hst
    | ok flow =>
      refine either_ok.2 ?_
      split
      · exact hotherwise
      · refine keeps_bind.2 (Keeps.mono (startHeld_custodial s _ text name phone hkey hst) ?_)
        intro r st hr
        cases r with
        | error e => exact hr
        | ok started =>
          refine either_ok.2 ?_
          show Served (.ok (if _ then _ else _)) st
          split
          · exact hr
          · refine ⟨hr.clear, ?_⟩
            rintro t ⟨⟩ herror
            cases resumed with
            | none =>
              exact absurd (Option.some.inj herror) (ne_concurrentUpdate (by decide))
            | some t => exact absurd herror (hcalm' t rfl)
  | refused => exact (keeps_of_refused _).mono fun r s hs => hs ▸ served_refused r
  | _ => exact hst.elim

theorem receiveHeld_custodial (s : Settings) {contact : Contact} (text name phone : Option String)
    (hkey : key = some contact.key) (hclear : h.IsClear) :
    Serves flows key false (.inside h) (do
      let resumed ← resumeAwaiting s contact text
      match resumed.filter fun r => r.success && r.hasResponse with
      | some r => pure r
      | none => startAsked s contact text name phone resumed) := by
  refine keeps_bind.2 ((resumeAwaiting_custodial s contact text hclear).mono fun r st hr => ?_)
  obtain ⟨hst, hcalm⟩ := hr
  cases r with
  | error e => exact served_error hst
  | ok resumed =>
    refine either_ok.2 ?_
    split
    · rename_i t hfound
      obtain ⟨rfl, -⟩ := Option.filter_eq_some_iff.1 hfound
      refine ⟨hst, ?_⟩
      rintro t' ⟨⟩ herror
      exact hcalm t rfl herror
    · refine startAsked_custodial s text name phone hkey hst ?_
      rintro t rfl herror
      exact hcalm t rfl herror

theorem cancelHeld_custodial {contact : Contact} (hkey : key = some contact.key)
    (hclear : h.IsClear) :
    (do
      let ended ← store (.deactivate contact)
      cancelTimers ended
      pure (!ended.isEmpty) : Work Bool).Keeps (custody flows key timed) (.inside h)
      fun _ s => s.IsClear := by
  refine keeps_bind.2 (keeps_store.2 ⟨⟨hclear, hkey⟩, fun r hr => ?_⟩)
  cases r with
  | error e => exact hr.elim
  | ok ids =>
    refine keeps_bind.2 ((cancelTimers_custodial (h := { h with shown := none, cleared := true })
      ids).mono fun r s hs => ?_)
    cases r with
    | error e => exact hs.elim
    | ok u =>
      obtain rfl : s = _ := hs
      exact ⟨hclear.1, rfl⟩

end Parley.Desk
