import Mathlib.Data.Stream.Init
import Parley.Proofs.Floor.Serial
import Parley.Proofs.Program.Runs
import Parley.Proofs.Turn.Trail

/-!
# Operations that nobody interrupts

`attended` answers the questions of a desk where nobody else is about: one after the other, each in
the next of an endless row of surroundings, and the store by what is in the ledger. So every
operation comes to an end, with a result and a ledger; and what operations for one key come to that
take turns, they come to one after the other in such a row (`run_of_serve`).

`Committed` says what a ledger keeps of a turn that was committed. An operation whose turn succeeds
is taken apart into the turn with which it begins and the visits that settle it (`Succeeds`):
`start_ok`, `resume_ok` and `continue_ok` tell which turn that is.
-/

namespace Parley

namespace Ledger

variable {l : Ledger} {c d : Conversation} {key : String}

/-- A conversation that is kept where its contact has no active one is the active one. -/
theorem active?_keep_of_none (h : l.active? key = none) (hc : holds key c = true) :
    (l.keep c).active? key = some c := by
  have hput : ∀ d : Dictionary Conversation, (d.map (·.2)).find? (holds key) = none →
      ((Dictionary.put d c.id c).map (·.2)).find? (holds key) = some c := by
    intro d hd
    induction d with
    | nil => simp [Dictionary.put, hc]
    | cons p rest ih =>
      obtain ⟨k, v⟩ := p
      have hnone := List.find?_eq_none.1 hd
      have hv : holds key v = false := by simpa using hnone v List.mem_cons_self
      have hrest : (rest.map (·.2)).find? (holds key) = none :=
        List.find?_eq_none.2 fun b hb => hnone b (List.mem_cons_of_mem _ hb)
      by_cases hk : k = c.id
      · simp [Dictionary.put, hk, hc]
      · simpa [Dictionary.put, hk, hv] using ih hrest
  exact hput _ h

/-- A conversation that is written over the active one of its key is the active one. -/
theorem IsTidy.active?_keep (h : l.IsTidy) (hd : l.active? key = some d) (hid : c.id = d.id)
    (hc : holds key c = true) : (l.keep c).active? key = some c := by
  have hfound := (h.find?_of_active? hd).1
  rw [← hid] at hfound
  unfold active? at hd ⊢
  rw [h.all_keep hfound, List.find?_map]
  obtain ⟨hholds, before, behind, hall, hbefore⟩ := List.find?_eq_some_iff_append.1 hd
  have hnodup := h.nodup_ids
  rw [hall, List.map_append, List.map_cons] at hnodup
  obtain ⟨-, -, hne⟩ := List.nodup_append.1 hnodup
  have hsame : l.all.find? (holds key ∘ fun b => if b.id = c.id then c else b) = some d := by
    refine List.find?_eq_some_iff_append.2 ⟨by simp [hid, hc], before, behind, hall, fun b hb => ?_⟩
    have hb' : b.id ≠ c.id := by
      rw [hid]
      exact hne _ (List.mem_map_of_mem hb) _ List.mem_cons_self
    simpa [hb'] using hbefore b hb
  rw [hsame, Option.map_some, if_pos hid.symm]

theorem foldl_append_conversations (es : List Entry) (l : Ledger) :
    (es.foldl append l).conversations = l.conversations := by
  induction es generalizing l with
  | nil => rfl
  | cons e es ih => exact (ih (l.append e)).trans rfl

theorem foldl_append_flows (es : List Entry) (l : Ledger) :
    (es.foldl append l).flows = l.flows := by
  induction es generalizing l with
  | nil => rfl
  | cons e es ih => exact (ih (l.append e)).trans rfl

/-- What is told of a conversation since an earlier ledger. -/
def toldSince (l m : Ledger) (id : String) : List Entry :=
  (m.historyOf id).drop (l.historyOf id).length

theorem historyOf_foldl_append (es : List Entry) (l : Ledger) (id : String) :
    (es.foldl append l).historyOf id = l.historyOf id ++ es.filter (·.conversation = id) := by
  induction es generalizing l with
  | nil => simp
  | cons e es ih =>
    rw [List.foldl_cons, ih, historyOf_append]
    by_cases he : e.conversation = id <;> simp [he]

end Ledger

namespace Desk

open Program

/-- What is heard outside, in one surroundings after the other. -/
def heard (q : Outside.Ask) (as : Stream' Around) : Except Failure q.Answer × Stream' Around :=
  (as.head.outside q, as.tail)

/-- What a desk is answered where nobody else is about, in one surroundings after the other. -/
def attended (q : Ask) (s : Stream' Around × Ledger) : q.Answer × Stream' Around × Ledger :=
  ((alone s.1.head q s.2).1, s.1.tail, (alone s.1.head q s.2).2)

variable {α β : Type} {as bs : Stream' Around} {l l' m : Ledger} {x : Stream' Around × Ledger}

theorem run_ask_bind (q : Ask) (f : q.Answer → Work β) (as : Stream' Around) (l : Ledger) :
    (ask q >>= f).run attended (as, l) =
      (f (alone as.head q l).1).run attended (as.tail, (alone as.head q l).2) := rfl

theorem run_store (q : Store.Ask) (as : Stream' Around) (l : Ledger) :
    (store q).run attended (as, l) =
      ((l.answer as.head.now q).1, as.tail, (l.answer as.head.now q).2) := by
  unfold store
  rw [run_ask_bind, run_ofExcept]
  rfl

/-- What follows on a question to the store that is answered. -/
theorem run_store_bind_of_ok {β : Type} {q : Store.Ask} {f : q.Answer → Work β} {a : q.Answer}
    (h : (l.answer as.head.now q).1 = .ok a) :
    (store q >>= f).run attended (as, l) =
      (f a).run attended (as.tail, (l.answer as.head.now q).2) :=
  run_bind_of_ok (by rw [run_store, h])

/-- Work goes on with what the store has answered. -/
theorem run_store_bind_ok {q : Store.Ask} {f : q.Answer → Work β} {b : β}
    (h : (store q >>= f).run attended (as, l) = (.ok b, x)) :
    ∃ a, (l.answer as.head.now q).1 = .ok a ∧
      (f a).run attended (as.tail, (l.answer as.head.now q).2) = (.ok b, x) := by
  obtain ⟨a, u, ha, hf⟩ := run_bind_ok.1 h
  rw [run_store] at ha
  obtain ⟨hanswer, rfl⟩ := Prod.mk.inj ha
  exact ⟨a, hanswer, hf⟩

theorem run_outside (p : Program Outside.Access α) (as : Stream' Around) (l : Ledger) :
    (outside p).run attended (as, l) = ((p.run heard as).1, (p.run heard as).2, l) :=
  run_via (fun as => (as, l)) (fun _ _ => rfl) p as

/-- Work done under a key comes to what it comes to without. -/
theorem run_holding {key : String} {work : Work α} {r : Except Failure α}
    (h : work.run attended (as.tail, l) = (r, bs, m)) :
    (holding key work).run attended (as, l) = (r, bs.tail, m) := by
  have hattempt : work.attempt.run attended (as.tail, (alone as.head (.acquire key) l).2) =
      (.ok r, bs, m) := run_attempt_ok.2 h
  unfold holding
  rw [run_ask_bind, run_bind_of_ok hattempt, run_ask_bind, run_ofExcept]
  rfl

theorem run_holding_ok {key : String} {work : Work α} {r : α}
    (h : (holding key work).run attended (as, l) = (.ok r, bs, m)) :
    ∃ bs, work.run attended (as.tail, l) = (.ok r, bs, m) := by
  unfold holding at h
  rw [run_ask_bind] at h
  obtain ⟨result, ⟨cs, m'⟩, hwork, hrest⟩ := run_bind_ok.1 h
  rw [run_ask_bind, run_ofExcept] at hrest
  obtain ⟨rfl, hbooks⟩ := Prod.mk.inj hrest
  obtain rfl : m' = m := (Prod.mk.inj hbooks).2
  exact ⟨cs, run_attempt_ok.1 hwork⟩

theorem run_writeHistory (es : List Entry) (as : Stream' Around) (l : Ledger) :
    ∃ bs, (writeHistory es).run attended (as, l) = (.ok (), bs, es.foldl Ledger.append l) := by
  induction es generalizing as l with
  | nil => exact ⟨as, rfl⟩
  | cons e es ih => exact ih as.tail (l.append e)

theorem run_cancelTimers (ids : List String) (as : Stream' Around) (l : Ledger) :
    ∃ bs, (cancelTimers ids).run attended (as, l) = (.ok (), bs, l) := by
  induction ids generalizing as with
  | nil => exact ⟨as, rfl⟩
  | cons id ids ih => exact ih as.tail

theorem run_settleTimer (t : Turn) (c : Conversation) (as : Stream' Around) (l : Ledger) :
    ∃ bs, (settleTimer t c).run attended (as, l) = (.ok (), bs, l) := by
  unfold settleTimer
  split
  · split <;> exact ⟨_, rfl⟩
  · exact ⟨_, rfl⟩

/-- Work that came to a result. -/
theorem eq_ok_of_any {x : Except Failure α × Stream' Around × Ledger} {p : α → Bool}
    (h : x.1.toOption.any p = true) :
    ∃ r, x = (.ok r, x.2.1, x.2.2) ∧ p r = true := by
  obtain ⟨_ | r, as, l⟩ := x
  · cases h
  · exact ⟨r, rfl, h⟩

/-- Work that is served to its end comes to what it comes to in an endless row of surroundings. -/
theorem run_of_serve {work : Work Outcome} {answers : List Around} {r : Except Failure Outcome}
    (h : Floor.result? (serve work answers l).1 = some r) (as : Stream' Around) :
    ∃ bs, work.run attended (answers ++ₛ as, l) = (r, bs, (serve work answers l).2) := by
  induction answers generalizing work l with
  | nil =>
    cases work with
    | done a =>
      cases h
      exact ⟨_, rfl⟩
    | fail e =>
      cases h
      exact ⟨_, rfl⟩
    | ask q next => cases h
  | cons around answers ih =>
    cases work with
    | done a =>
      cases h
      exact ⟨_, rfl⟩
    | fail e =>
      cases h
      exact ⟨_, rfl⟩
    | ask q next => exact ih h

/-! ## What is kept of a turn -/

/-- The turn is the first of its conversation, or that of the active one. -/
def IsCurrent (t : Turn) (l : Ledger) : Prop :=
  t.isNew = true ∨ ∃ b, l.active? t.conversation.key = some b ∧ b.id = t.conversation.id

/-- The conversation of a turn is kept, and is the active one where it is not over. -/
structure Lodged (t : Turn) (l : Ledger) (c : Conversation) (m : Ledger) : Prop where
  eq : ∃ version now, c = { t.conversation with version, updatedAt := now }
  found : m.find? t.conversation.id = some c
  active : l.IsTidy → IsCurrent t l → c.isActive = true → m.active? c.key = some c
  tidy : l.IsTidy → m.IsTidy
  flows : m.flows = l.flows

theorem run_replaceActive_ok {t : Turn} {c : Conversation}
    (h : (replaceActive t.conversation).run attended (as, l) = (.ok c, bs, m)) :
    Lodged t l c m ∧ ∀ id, m.historyOf id = l.historyOf id := by
  obtain ⟨ended, -, hrest⟩ := run_store_bind_ok h
  obtain ⟨⟨⟩, u, hcancelled, hcreated⟩ := run_bind_ok.1 hrest
  -- What is left of the ledger once the contact's conversations are over.
  generalize hl₁ : (l.deactivate as.head.now t.conversation.key).2 = l₁
  change (cancelTimers ended).run attended (as.tail, (l.deactivate _ _).2) = _ at hcancelled
  rw [show (l.deactivate as.head.now t.conversation.contact.key).2 = l₁ from hl₁] at hcancelled
  obtain ⟨cs, hcancel⟩ := run_cancelTimers ended as.tail l₁
  obtain rfl : (cs, l₁) = u := (Prod.mk.inj (hcancel.symm.trans hcancelled)).2
  have hfree : l₁.active? t.conversation.key = none := by
    rw [← hl₁]
    exact l.active?_deactivate ..
  rw [run_store] at hcreated
  change ((l₁.create t.conversation).1, cs.tail, (l₁.create t.conversation).2) = _ at hcreated
  rw [Ledger.create_of_active? hfree] at hcreated
  obtain ⟨hc, hm⟩ := Prod.mk.inj hcreated
  obtain rfl := Except.ok.inj hc
  obtain rfl := (Prod.mk.inj hm).2
  refine ⟨⟨⟨1, _, rfl⟩, ?_, fun _ _ hactive => ?_, fun htidy => ?_, ?_⟩, fun id => ?_⟩
  · rw [Ledger.find?_keep, if_pos rfl]
  · exact Ledger.active?_keep_of_none hfree (Ledger.holds_iff.2 ⟨hactive, rfl⟩)
  · rw [← hl₁]
    exact (htidy.deactivate ..).keep _
  · rw [← hl₁]
    rfl
  · rw [← hl₁]
    rfl

theorem run_save_ok {t : Turn} {c : Conversation} (hnew : t.isNew = false)
    (h : (store (.save t.conversation t.version)).run attended (as, l) = (.ok c, bs, m)) :
    Lodged t l c m ∧ ∀ id, m.historyOf id = l.historyOf id := by
  rw [run_store] at h
  change ((l.save as.head.now t.conversation t.version).1, as.tail,
    (l.save as.head.now t.conversation t.version).2) = _ at h
  rcases l.save_cases as.head.now t.conversation t.version with ⟨e, hsave⟩ | ⟨b, hb, -, hsave⟩ <;>
    rw [hsave] at h
  · cases h
  · obtain ⟨hc, hm⟩ := Prod.mk.inj h
    obtain rfl := Except.ok.inj hc
    obtain rfl := (Prod.mk.inj hm).2
    refine ⟨⟨⟨_, _, rfl⟩, ?_, fun htidy hcurrent hactive => ?_, fun htidy => htidy.keep _, rfl⟩,
      fun id => rfl⟩
    · rw [Ledger.find?_keep, if_pos rfl]
    · obtain hisNew | ⟨d, hd, hid⟩ := hcurrent
      · rw [hnew] at hisNew
        cases hisNew
      · exact htidy.active?_keep hd hid.symm (Ledger.holds_iff.2 ⟨hactive, rfl⟩)

theorem run_keep_ok {t : Turn} {c : Conversation}
    (h : (keep t).run attended (as, l) = (.ok c, bs, m)) :
    Lodged t l c m ∧ ∀ id, m.historyOf id = l.historyOf id := by
  unfold keep at h
  split at h
  · exact run_replaceActive_ok h
  · rename_i hnew
    exact run_save_ok (by simpa using hnew) h

/-- What a ledger keeps of a turn that was committed: the conversation, and what the turn tells. -/
structure Committed (t : Turn) (l : Ledger) (r : TurnResult) (m : Ledger) : Prop where
  conversation : r.conversation = some t.conversation.id
  lodged : ∃ c, Lodged t l c m
  history : ∀ id, m.historyOf id = l.historyOf id ++ t.history.filter (·.conversation = id)

theorem run_commit_ok {s : Settings} {t : Turn} {r : TurnResult}
    (h : (commit s t).run attended (as, l) = (.ok r, bs, m)) (hr : r.success = true) :
    Committed t l r m := by
  unfold commit at h
  obtain ⟨kept, ⟨cs, l₁⟩, hkept, hrest⟩ := run_bind_ok.1 h
  have hkept := run_attempt_ok.1 hkept
  cases kept with
  | error e =>
    cases e with
    | conflict =>
      cases hrest
      cases hr
    | _ => cases hrest
  | ok c =>
    obtain ⟨hlodged, hhistory⟩ := run_keep_ok hkept
    obtain ⟨⟨⟩, u, hwritten, hrest⟩ := run_bind_ok.1 hrest
    obtain ⟨ds, hwrite⟩ := run_writeHistory t.history cs l₁
    obtain rfl := (Prod.mk.inj (hwrite.symm.trans hwritten)).2
    obtain ⟨⟨⟩, v, hsettled, hrest⟩ := run_bind_ok.1 hrest
    obtain ⟨es, hsettle⟩ := run_settleTimer t c ds (t.history.foldl Ledger.append l₁)
    obtain rfl := (Prod.mk.inj (hsettle.symm.trans hsettled)).2
    cases hrest
    have hconversations := Ledger.foldl_append_conversations t.history l₁
    obtain ⟨version, now, heq⟩ := hlodged.eq
    refine ⟨?_, ⟨c, ⟨_, _, heq⟩, ?_, fun htidy hcurrent hactive => ?_, fun htidy => ?_, ?_⟩,
      fun id => ?_⟩
    · exact congrArg some (by rw [heq])
    · unfold Ledger.find?
      rw [hconversations]
      exact hlodged.found
    · unfold Ledger.active? Ledger.all
      rw [hconversations]
      exact hlodged.active htidy hcurrent hactive
    · have htidy := hlodged.tidy htidy
      exact ⟨by rw [hconversations]; exact htidy.nodup, by rw [hconversations]; exact htidy.ids⟩
    · exact (Ledger.foldl_append_flows ..).trans hlodged.flows
    · rw [Ledger.historyOf_foldl_append, hhistory]

/-! ## Turns that succeed -/

/-- A turn at its beginning: it is open, tells of its own conversation, and has executed nothing
yet. -/
structure IsFresh (t : Turn) (n : Node) : Prop where
  isOpen : t.IsOpen
  mem : n ∈ t.flow.nodes
  own : ∀ e ∈ t.history, e.conversation = t.conversation.id
  fresh : nodesOf .executed t.history = []

/-- The visits of a turn settle it, and what they come to is committed. -/
def Succeeds (s : Settings) (t : Turn) (n : Node) (resuming : Bool) (as : Stream' Around)
    (l : Ledger) (r : TurnResult) (m : Ledger) : Prop :=
  ∃ u, ((t.advance s.further n resuming).run heard as).1 = .ok (.settled u) ∧ Committed u l r m

variable {s : Settings} {r : TurnResult}

/-- What is told since the ledger before a turn that succeeds is what the turn tells. -/
theorem Succeeds.settled {t : Turn} {n : Node} {resuming : Bool}
    (h : Succeeds s t n resuming as l r m) (ht : IsFresh t n) :
    ∃ u, ((t.advance s.further n resuming).run heard as).1 = .ok (.settled u) ∧ t.Same u ∧
      Committed u l r m ∧ l.toldSince m t.conversation.id = u.history := by
  obtain ⟨u, hrun, hcommitted⟩ := h
  obtain ⟨hsame, -⟩ : t.Settled n (.settled u) := by
    have := (Turn.advance_yields s.further ht.isOpen n resuming).run heard as
    rwa [hrun] at this
  obtain ⟨told, htold, -, hown, -⟩ : t.Walks n (.settled u) := by
    have := (Turn.advance_walks s.further t ht.mem resuming).run heard as
    rwa [hrun] at this
  have hall : ∀ e ∈ u.history, e.conversation = t.conversation.id := by
    rw [htold]
    exact fun e he => (List.mem_append.1 he).elim (ht.own e) (hown e)
  have hfilter : u.history.filter (·.conversation = t.conversation.id) = u.history :=
    List.filter_eq_self.2 fun e he => by simpa using hall e he
  refine ⟨u, hrun, hsame, hcommitted, ?_⟩
  unfold Ledger.toldSince
  rw [hcommitted.history, List.drop_left, hfilter]

theorem run_runTurn_ok {t : Turn} {n : Node} {resuming : Bool} {c : Conversation}
    (h : (runTurn s t n resuming).run attended (as, l) = (.ok (c, r), bs, m))
    (hr : r.success = true) : Succeeds s t n resuming as l r m := by
  unfold runTurn at h
  obtain ⟨course, u, hcourse, hrest⟩ := run_bind_ok.1 h
  rw [run_outside] at hcourse
  obtain ⟨hadvance, rfl⟩ := Prod.mk.inj hcourse
  cases course with
  | settled t' =>
    obtain ⟨result, v, hcommit, hrest⟩ := run_bind_ok.1 hrest
    cases hrest
    exact ⟨t', hadvance, run_commit_ok hcommit hr⟩
  | broken t' f =>
    obtain ⟨result, v, hnoted, hrest⟩ := run_bind_ok.1 hrest
    cases hrest
    unfold noteFailure at hnoted
    obtain ⟨input, w, -, hnoted⟩ := run_bind_ok.1 hnoted
    obtain ⟨⟨⟩, w, -, hnoted⟩ := run_bind_ok.1 hnoted
    cases hnoted
    cases hr

/-- A turn of a conversation that nobody else wrote meanwhile is committed. -/
theorem run_commit_of_found {t : Turn} {b : Conversation}
    (hnew : t.isNew = false) (hb : l.find? t.conversation.id = some b)
    (hversion : t.version = b.version) (as : Stream' Around) :
    ∃ c bs m, (commit s t).run attended (as, l) = (.ok (resultOf s t c), bs, m) := by
  obtain ⟨kept, l₁, hkeep⟩ :
      ∃ kept l₁, (keep t).run attended (as, l) = (.ok kept, as.tail, l₁) := by
    unfold keep
    rw [hnew, if_neg Bool.false_ne_true, run_store]
    show ∃ kept l₁, ((l.save _ _ _).1, as.tail, (l.save _ _ _).2) = (Except.ok kept, as.tail, l₁)
    rw [hversion, Ledger.save_of_find? _ hb]
    exact ⟨_, _, rfl⟩
  obtain ⟨cs, hwrite⟩ := run_writeHistory t.history as.tail l₁
  obtain ⟨bs, hsettle⟩ := run_settleTimer t kept cs (t.history.foldl Ledger.append l₁)
  refine ⟨kept, bs, t.history.foldl Ledger.append l₁, ?_⟩
  unfold commit
  rw [run_bind_of_ok (run_attempt_ok.2 hkeep)]
  dsimp only
  rw [run_bind_of_ok hwrite, run_bind_of_ok hsettle]
  rfl

theorem run_runTurn_of_settled {t u : Turn} {n : Node} {resuming : Bool}
    (h : ((t.advance s.further n resuming).run heard as).1 = .ok (.settled u)) :
    (runTurn s t n resuming).run attended (as, l) =
      (commit s u >>= fun result => pure (u.conversation, result)).run attended
        (((t.advance s.further n resuming).run heard as).2, l) := by
  unfold runTurn
  rw [run_bind_of_ok ((run_outside ..).trans (by rw [h]))]

/-- The turn with which a conversation begins. -/
def newTurn (now : Moment) (id : String) (contact : Contact) (flowId : String) (f : Flow)
    (start : Node) (text name phone : Option String) : Turn :=
  let turn : Turn := {
    conversation := {
      id, contact, flowId, node := start.id, vars := firstVariables now text name phone
      createdAt := now, updatedAt := now }
    flow := f, version := 0, isNew := true, start := now }
  turn.record start .entered text

theorem isFresh_newTurn {f : Flow} {n : Node} (hn : f.start? = some n) (now : Moment) (id : String)
    (contact : Contact) (flowId : String) (text name phone : Option String) :
    IsFresh (newTurn now id contact flowId f n text name phone) n where
  isOpen := ⟨rfl, rfl⟩
  mem := List.mem_of_find?_eq_some hn
  own e he := by
    obtain rfl := List.mem_singleton.1 he
    rfl
  fresh := rfl

/-- A start that succeeds is a turn from the flow's first node on. -/
theorem start_ok {contact : Contact} {flowId : String} {text name phone : Option String}
    (h : (start s contact flowId text name phone).run attended (as, l) = (.ok r, bs, m))
    (hr : r.success = true) :
    ∃ f n, Dictionary.find? l.flows flowId = some f ∧ f.start? = some n ∧
      Succeeds s (newTurn (as.get 2).now (as.get 3).freshId contact flowId f n text name phone) n
        false (as.drop 4) l r m := by
  obtain ⟨cs, hheld⟩ := run_holding_ok h
  unfold startHeld at hheld
  obtain ⟨found, hfound, hrest⟩ := run_store_bind_ok hheld
  obtain rfl : (Dictionary.find? l.flows flowId).filter (Ledger.isFor contact.tenant) = found :=
    Except.ok.inj hfound
  split at hrest
  · cases hrest
    cases hr
  · rename_i f hf
    have hf := Option.filter_eq_some_iff.1 (Option.filter_eq_some_iff.1 hf).1
    split at hrest
    · rename_i n hn
      split at hrest
      · unfold firstTurn at hrest
        rw [run_ask_bind, run_ask_bind] at hrest
        obtain ⟨⟨c, r'⟩, u, hrun, hrest⟩ := run_bind_ok.1 hrest
        cases hrest
        exact ⟨f, n, hf.1, hn, run_runTurn_ok hrun hr⟩
      · cases hrest
        cases hr
    · cases hrest
      cases hr

/-- A start of a flow that can be used goes on with its first turn. -/
theorem run_start_of_usable {g : Flow} {n : Node} {contact : Contact} {flowId : String}
    (hg : Dictionary.find? l.flows flowId = some g) (hfor : Ledger.isFor contact.tenant g = true)
    (hen : g.enabled = true) (hn : g.start? = some n) (hu : g.isUsable = true)
    (text name phone : Option String) (as : Stream' Around) :
    (start s contact flowId text name phone).run attended (as, l) =
      ((firstTurn s contact flowId g n text name phone).attempt >>= fun result => do
        ask (.release contact.key)
        ofExcept result).run attended (as.tail.tail, l) := by
  obtain ⟨next, hheld, hnext⟩ :=
    Floor.startHeld_of_usable s contact flowId text name phone hen hn hu
  have hflow : (l.answer as.tail.head.now (.flow contact.tenant flowId)).1 = .ok (some g) := by
    show Except.ok ((Dictionary.find? l.flows flowId).filter (Ledger.isFor contact.tenant)) = _
    rw [hg, Option.filter_some, if_pos hfor]
  rw [← hnext, ← hflow]
  unfold start holding
  rw [run_ask_bind, hheld]
  rfl

/-- The turn of an answer belongs to the conversation that was answered. -/
theorem answeredTurn_belongs (now : Moment) (c : Conversation) (f : Flow) (n : Node)
    (text : Option String) :
    let t := answeredTurn now c f n text
    t.conversation.id = c.id ∧ t.conversation.contact = c.contact ∧
      t.conversation.flowId = c.flowId ∧ t.flow = f := by
  unfold answeredTurn
  dsimp only
  split <;> exact ⟨rfl, rfl, rfl, rfl⟩

theorem isFresh_answeredTurn {c : Conversation} {f : Flow} {n : Node} (hactive : c.isActive = true)
    (hn : f.node? c.node = some n) (now : Moment) (text : Option String) :
    IsFresh (answeredTurn now c f n text) n := by
  unfold answeredTurn
  dsimp only
  split
  · refine ⟨⟨hactive, rfl⟩, Flow.node?_mem hn, fun e he => ?_, rfl⟩
    simp only [Turn.record, List.nil_append, List.singleton_append, List.mem_cons,
      List.not_mem_nil, or_false] at he
    rcases he with rfl | rfl <;> rfl
  · refine ⟨⟨hactive, rfl⟩, Flow.node?_mem hn, fun e he => ?_, rfl⟩
    obtain rfl := List.mem_singleton.1 he
    rfl

/-- A resumption that succeeds is a turn of the contact's active conversation, from the node at
which that waits for an answer. -/
theorem resumeHeld_ok {contact : Contact} {text : Option String}
    (h : (resumeHeld s contact text).run attended (as, l) = (.ok r, bs, m))
    (hr : r.success = true) :
    ∃ c f n, l.active? contact.key = some c ∧ c.awaitsInput = true ∧
      Dictionary.find? l.flows c.flowId = some f ∧ f.node? c.node = some n ∧
      Succeeds s (answeredTurn (as.get 2).now c f n text) n (!c.entersOnResume) (as.drop 3) l r
        m := by
  unfold resumeHeld at h
  obtain ⟨active, hactive, hrest⟩ := run_store_bind_ok h
  obtain rfl : l.active? contact.key = active := Except.ok.inj hactive
  split at hrest
  · cases hrest
    cases hr
  · rename_i c hc
    split at hrest
    · rename_i hwaits
      obtain ⟨found, hfound, hrest⟩ := run_store_bind_ok hrest
      obtain rfl : (Dictionary.find? l.flows c.flowId).filter (Ledger.isFor contact.tenant) =
        found := Except.ok.inj hfound
      split at hrest
      · cases hrest
        cases hr
      · rename_i f n hfn
        obtain ⟨f', hf, hpair⟩ := Option.bind_eq_some_iff.1 hfn
        obtain ⟨n', hn, heq⟩ := Option.map_eq_some_iff.1 hpair
        obtain ⟨rfl, rfl⟩ := Prod.mk.inj heq
        rw [run_ask_bind] at hrest
        obtain ⟨⟨c', r'⟩, u, hrun, hrest⟩ := run_bind_ok.1 hrest
        cases hrest
        exact ⟨c, f', n', hc, hwaits, (Option.filter_eq_some_iff.1 hf).1, hn,
          run_runTurn_ok hrun hr⟩
    · cases hrest
      cases hr

theorem resume_ok {contact : Contact} {text : Option String}
    (h : (resume s contact text).run attended (as, l) = (.ok r, bs, m)) (hr : r.success = true) :
    ∃ c f n, l.active? contact.key = some c ∧ c.awaitsInput = true ∧
      Dictionary.find? l.flows c.flowId = some f ∧ f.node? c.node = some n ∧
      Succeeds s (answeredTurn (as.get 3).now c f n text) n (!c.entersOnResume) (as.drop 4) l r
        m := by
  obtain ⟨cs, hheld⟩ := run_holding_ok h
  have hturn := resumeHeld_ok hheld hr
  exact hturn

/-- The turn of a conversation whose timer went off. -/
def wokenTurn (now : Moment) (c : Conversation) (f : Flow) (n : Node) : Turn :=
  let turn : Turn := { conversation := c, flow := f, version := c.version, start := now }
  turn.record n .timeout

theorem isFresh_wokenTurn {c : Conversation} {f : Flow} {n : Node} (hactive : c.isActive = true)
    (hn : n ∈ f.nodes) (now : Moment) : IsFresh (wokenTurn now c f n) n where
  isOpen := ⟨hactive, rfl⟩
  mem := hn
  own e he := by
    obtain rfl := List.mem_singleton.1 he
    rfl
  fresh := rfl

/-- A continuation that succeeds is a turn of the conversation whose timer went off, from the node
at which that waits for it. -/
theorem continueHeld_ok {w : Wake} {c' : Conversation}
    (h : (continueHeld s w).run attended (as, l) = (.ok (some (c', r)), bs, m))
    (hr : r.success = true) :
    ∃ c f n, l.find? w.conversation = some c ∧ isAwaited w c = true ∧
      Dictionary.find? l.flows w.flow = some f ∧ f.node? w.node = some n ∧
      Succeeds s (wokenTurn (as.get 2).now c f n) n true (as.drop 3) l r m := by
  unfold continueHeld at h
  obtain ⟨found, hfound, hrest⟩ := run_store_bind_ok h
  obtain rfl : l.find? w.conversation = found := Except.ok.inj hfound
  split at hrest
  · cases hrest
  · rename_i c hc
    obtain ⟨hc, hawaited⟩ := Option.filter_eq_some_iff.1 hc
    obtain ⟨flow, hflow, hrest⟩ := run_store_bind_ok hrest
    obtain rfl : (Dictionary.find? l.flows w.flow).filter (Ledger.isFor w.contact.tenant) =
      flow := Except.ok.inj hflow
    dsimp only at hrest
    split at hrest
    · cases hrest
    · rename_i f n hfn
      obtain ⟨f', hf, hpair⟩ := Option.bind_eq_some_iff.1 hfn
      obtain ⟨n', hn, heq⟩ := Option.map_eq_some_iff.1 hpair
      obtain ⟨rfl, rfl⟩ := Prod.mk.inj heq
      rw [run_ask_bind] at hrest
      obtain ⟨⟨c', r'⟩, u, hrun, hrest⟩ := run_bind_ok.1 hrest
      cases hrest
      exact ⟨c, f', n', hc, hawaited, (Option.filter_eq_some_iff.1 hf).1, hn,
        run_runTurn_ok hrun hr⟩

theorem continue_ok {w : Wake} {c' : Conversation}
    (h : (holding w.contact.key (continueHeld s w)).run attended (as, l) =
      (.ok (some (c', r)), bs, m)) (hr : r.success = true) :
    ∃ c f n, l.find? w.conversation = some c ∧ isAwaited w c = true ∧
      Dictionary.find? l.flows w.flow = some f ∧ f.node? w.node = some n ∧
      Succeeds s (wokenTurn (as.get 3).now c f n) n true (as.drop 4) l r m := by
  obtain ⟨cs, hheld⟩ := run_holding_ok h
  have hturn := continueHeld_ok hheld hr
  exact hturn

end Desk

end Parley
