import Parley.Proofs.Desk.Rules
import Parley.Proofs.Turn.Advance

/-!
# Work stays with its key

A desk works for one key at a time. `Desk.confinement` is the protocol of work for a key: it asks for
that key's conversations and for ids made up for it, and what it learns that way are the ids of the
key. It writes conversations of the key under such ids only, and sets and cancels timers of such ids
only, for wakes of the key. Work for no key at all may do none of this.

`start_confined`, `resume_confined`, `receive_confined`, `cancel_confined` and `wake_confined` say so
of the operations, each for the key of its contact.
-/

namespace Parley.Desk

open Program

/-- Whether a question may be asked in work for a key that knows of some ids of the key. -/
def Ask.Within (key : Option String) (own : List String) : Ask → Prop
  | .store (.active contact) => key = some contact.key
  | .store (.deactivate contact) => key = some contact.key
  | .store (.conversation id) => id ∈ own
  | .store (.create c) => key = some c.key ∧ c.id ∈ own
  | .store (.save c _) => key = some c.key ∧ c.id ∈ own
  | .freshId => key.isSome
  | .schedule id _ w => id ∈ own ∧ w.conversation = id ∧ key = some w.contact.key
  | .cancelTimer id => id ∈ own
  | _ => True

/-- What an answer to work for a key can be relied on to be. -/
def Ask.HearsOf (key : Option String) : (q : Ask) → q.Answer → Prop
  | .store (.active _), .ok (some c) => c.isActive = true ∧ key = some c.key
  | .store (.conversation id), .ok (some c) => c.id = id ∧ key = some c.key
  | .store (.create c), .ok kept => kept.id = c.id ∧ kept.contact = c.contact
  | .store (.save c _), .ok kept => kept.id = c.id ∧ kept.contact = c.contact
  | _, _ => True

/-- The ids of the key that are known after an answer. -/
def Ask.learnt (own : List String) : (q : Ask) → q.Answer → List String
  | .store (.active _), .ok (some c) => c.id :: own
  | .store (.deactivate _), .ok ids => ids ++ own
  | .freshId, id => id :: own
  | _, _ => own

/-- How work for a key is confined to it. -/
def confinement (key : Option String) : Protocol Access (List String) where
  may := Ask.Within key
  hears := Ask.HearsOf key
  after := Ask.learnt

/-- Work is confined to a key of which it knows some ids. -/
def Confined {α : Type} (key : Option String) (own : List String) (work : Work α) : Prop :=
  work.Keeps (confinement key) own fun _ _ => True

variable {α β : Type} {key : Option String} {own : List String}

theorem Confined.andThen {work : Work α} {f : α → Work β} (h : Confined key own work)
    (hf : ∀ a own, Confined key own (f a)) : Confined key own (work >>= f) :=
  Keeps.andThen h fun a own _ => hf a own

theorem confined_pure (a : α) : Confined key own (pure a) := trivial

/-- Work goes on with the answer of the store; where that fails, the work fails. -/
theorem confined_store {q : Store.Ask} {f : q.Answer → Work β}
    (hwithin : (Ask.store q).Within key own)
    (hf : ∀ a, (Ask.store q).HearsOf key (.ok a) →
      Confined key ((Ask.store q).learnt own (.ok a)) (f a)) :
    Confined key own (store q >>= f) := by
  refine keeps_bind.2 (keeps_store.2 ⟨hwithin, fun r hr => ?_⟩)
  cases r with
  | error e => exact trivial
  | ok a => exact hf a hr

theorem confined_outside (q : Outside.Ask) : Passes (confinement key) own (.outside q) :=
  ⟨trivial, fun _ => rfl⟩

theorem confined_append (e : Entry) : Passes (confinement key) own (.store (.append e)) :=
  ⟨trivial, fun _ => rfl⟩

theorem confined_cancelTimers {ids : List String} (h : ∀ id ∈ ids, id ∈ own) :
    (cancelTimers ids).Keeps (confinement key) own
      fun r t => Either (fun _ => t = own) (fun _ => False) r :=
  cancelTimers_keeps fun id hid => ⟨h id hid, fun _ => rfl⟩

theorem confined_holding {k : String} {work : Work α} (h : Confined key own work) :
    Confined key own (holding k work) :=
  keeps_holding ⟨trivial, fun _ => rfl⟩ h fun _ _ _ => ⟨trivial, fun _ => rfl⟩

/-- Conversations of one contact have one key. -/
theorem key_of_contact {c d : Conversation} (hkey : key = some c.key) (h : d.contact = c.contact) :
    key = some d.key := by
  rw [hkey]
  exact congrArg (fun contact => some contact.key) h.symm

/-! ## Keeping what a turn has done -/

/-- What was kept is a conversation of the key under one of its ids. -/
def KeptOwn (key : Option String) (r : Except Failure Conversation) (own : List String) : Prop :=
  Either (fun kept => kept.id ∈ own ∧ key = some kept.key) (fun _ => True) r

theorem replaceActive_confined {c : Conversation} (hkey : key = some c.key) (hid : c.id ∈ own) :
    (replaceActive c).Keeps (confinement key) own (KeptOwn key) := by
  unfold replaceActive
  refine keeps_bind.2 (keeps_store.2 ⟨hkey, fun r _ => ?_⟩)
  cases r with
  | error e => exact trivial
  | ok ids =>
    refine keeps_bind_of_same
      (confined_cancelTimers fun id => List.mem_append_left own) fun _ => ?_
    refine keeps_store.2 ⟨⟨hkey, List.mem_append_right ids hid⟩, fun r hr => ?_⟩
    cases r with
    | error e => exact trivial
    | ok kept =>
      obtain ⟨hkept, hcontact⟩ := hr
      exact ⟨hkept ▸ List.mem_append_right ids hid, key_of_contact hkey hcontact⟩

theorem keep_confined {t : Turn} (hkey : key = some t.conversation.key)
    (hid : t.conversation.id ∈ own) :
    (keep t).Keeps (confinement key) own (KeptOwn key) := by
  unfold keep
  split
  · exact replaceActive_confined hkey hid
  · refine keeps_store.2 ⟨⟨hkey, hid⟩, fun r hr => ?_⟩
    cases r with
    | error e => exact trivial
    | ok kept =>
      obtain ⟨hkept, hcontact⟩ := hr
      exact ⟨hkept ▸ hid, key_of_contact hkey hcontact⟩

theorem settleTimer_confined {t : Turn} {kept : Conversation} (hid : kept.id ∈ own)
    (hkey : key = some kept.key) : Confined key own (settleTimer t kept) := by
  unfold settleTimer
  split
  · split
    · exact keeps_ask.2 ⟨⟨hid, rfl, hkey⟩, fun _ _ => trivial⟩
    · exact confined_pure ()
  · exact keeps_ask.2 ⟨hid, fun _ _ => trivial⟩

theorem commit_confined {s : Settings} {t : Turn} (hkey : key = some t.conversation.key)
    (hid : t.conversation.id ∈ own) : Confined key own (commit s t) := by
  unfold commit
  refine keeps_bind.2 (keeps_attempt.2 ((keep_confined hkey hid).mono fun r own hr => ?_))
  cases r with
  | error e => cases e <;> exact trivial
  | ok kept =>
    obtain ⟨hid, hkey⟩ := hr
    refine keeps_bind_of_same (writeHistory_keeps fun e _ => confined_append e) fun _ => ?_
    exact (settleTimer_confined hid hkey).andThen fun _ _ => confined_pure _

theorem noteFailure_confined (t : Turn) (n : Node) (resuming : Bool) (f : Failure) :
    Confined key own (noteFailure t n resuming f) := by
  unfold noteFailure
  refine Confined.andThen (keeps_ofExcept.2 trivial) fun input own => ?_
  exact keeps_bind_of_same (writeHistory_keeps fun e _ => confined_append e) fun _ => confined_pure _

theorem runTurn_confined (s : Settings) {t : Turn} (n : Node) (resuming : Bool) (ho : t.IsOpen)
    (hkey : key = some t.conversation.key) (hid : t.conversation.id ∈ own) :
    Confined key own (runTurn s t n resuming) := by
  unfold runTurn
  refine keeps_bind.2 ((keeps_outside confined_outside
    (Turn.advance_yields s.further ho n resuming)).mono ?_)
  rintro r own' ⟨hr, rfl⟩
  cases r with
  | error e => exact trivial
  | ok course =>
    cases course with
    | broken u e => exact (noteFailure_confined u n resuming e).andThen fun _ _ => confined_pure _
    | settled u =>
      obtain ⟨hsame, -⟩ := hr
      have hcommit : Confined key own' (commit s u) :=
        commit_confined (key_of_contact hkey hsame.contact) (hsame.id ▸ hid)
      exact hcommit.andThen fun _ _ => confined_pure _

/-! ## The operations -/

theorem firstTurn_confined (s : Settings) (contact : Contact) (flowId : String) (f : Flow)
    (n : Node) (text name phone : Option String) :
    Confined (some contact.key) own (firstTurn s contact flowId f n text name phone) := by
  unfold firstTurn
  refine keeps_bind.2 (keeps_ask.2 ⟨trivial, fun now _ => ?_⟩)
  refine keeps_bind.2 (keeps_ask.2 ⟨rfl, fun id _ => ?_⟩)
  refine Confined.andThen ?_ fun _ _ => confined_pure _
  exact runTurn_confined s n false ⟨rfl, rfl⟩ rfl List.mem_cons_self

theorem startHeld_confined (s : Settings) (contact : Contact) (flowId : String)
    (text name phone : Option String) :
    Confined (some contact.key) own (startHeld s contact flowId text name phone) := by
  unfold startHeld
  refine confined_store trivial fun found _ => ?_
  cases found.filter (·.enabled) with
  | none => exact confined_pure _
  | some f =>
    cases hn : f.start? with
    | none =>
      simp only [hn]
      exact confined_pure _
    | some n =>
      simp only [hn]
      split
      · exact firstTurn_confined s contact flowId f n text name phone
      · exact confined_pure _

/-- The turn of a conversation that got a message is open, and is that conversation's. -/
theorem answeredTurn_own {c : Conversation} (now : Moment) (f : Flow) (n : Node)
    (text : Option String) (hact : c.isActive = true) :
    (answeredTurn now c f n text).IsOpen ∧
    (answeredTurn now c f n text).conversation.id = c.id ∧
    (answeredTurn now c f n text).conversation.contact = c.contact := by
  unfold answeredTurn
  simp only
  split <;> exact ⟨⟨hact, rfl⟩, rfl, rfl⟩

theorem resumeHeld_confined (s : Settings) (contact : Contact) (text : Option String) :
    Confined (some contact.key) own (resumeHeld s contact text) := by
  unfold resumeHeld
  refine confined_store rfl fun active hactive => ?_
  cases active with
  | none => exact confined_pure _
  | some c =>
    obtain ⟨hact, hkey⟩ := hactive
    show Confined _ _ (if c.awaitsInput then _ else _)
    split
    · refine confined_store trivial fun found _ => ?_
      cases found.bind fun f => (f.node? c.node).map (f, ·) with
      | none => exact confined_pure _
      | some p =>
        refine keeps_bind.2 (keeps_ask.2 ⟨trivial, fun now _ => ?_⟩)
        refine Confined.andThen ?_ fun _ _ => confined_pure _
        obtain ⟨hopen, hid, hcontact⟩ := answeredTurn_own now p.1 p.2 text hact
        exact runTurn_confined s p.2 _ hopen (key_of_contact hkey hcontact)
          (hid ▸ List.mem_cons_self)
    · exact confined_pure _

theorem continueHeld_confined (s : Settings) (w : Wake) (hid : w.conversation ∈ own) :
    Confined (some w.contact.key) own (continueHeld s w) := by
  unfold continueHeld
  refine confined_store hid fun found hfound => ?_
  cases hawaited : found.filter (isAwaited w) with
  | none => exact confined_pure _
  | some c =>
    obtain ⟨rfl, hawait⟩ := Option.filter_eq_some_iff.1 hawaited
    obtain ⟨hconv, hkey⟩ : c.id = w.conversation ∧ some w.contact.key = some c.key := hfound
    have hact : c.isActive = true := by simp_all [isAwaited]
    refine confined_store trivial fun given _ => ?_
    cases given.bind fun f => (f.node? w.node).map (f, ·) with
    | none => exact confined_pure _
    | some p =>
      refine keeps_bind.2 (keeps_ask.2 ⟨trivial, fun now _ => ?_⟩)
      refine Confined.andThen ?_ fun _ _ => confined_pure _
      exact runTurn_confined s p.2 true ⟨hact, rfl⟩ hkey (hconv ▸ hid)

theorem start_confined (s : Settings) (contact : Contact) (flowId : String)
    (text name phone : Option String) :
    Confined (some contact.key) own (start s contact flowId text name phone) :=
  confined_holding (startHeld_confined s contact flowId text name phone)

theorem resume_confined (s : Settings) (contact : Contact) (text : Option String) :
    Confined (some contact.key) own (resume s contact text) :=
  confined_holding (resumeHeld_confined s contact text)

theorem flowFor_confined (tenant : String) (text : Option String) :
    Confined key own (flowFor tenant text) := by
  unfold flowFor
  split
  · exact confined_pure _
  · exact confined_store trivial fun _ _ => confined_pure _

theorem resumeAwaiting_confined (s : Settings) (contact : Contact) (text : Option String) :
    Confined (some contact.key) own (resumeAwaiting s contact text) := by
  unfold resumeAwaiting
  refine confined_store rfl fun active _ => ?_
  split
  · exact (resumeHeld_confined s contact text).andThen fun _ _ => confined_pure _
  · exact confined_pure _

theorem startAsked_confined (s : Settings) (contact : Contact) (text name phone : Option String)
    (resumed : Option TurnResult) :
    Confined (some contact.key) own (startAsked s contact text name phone resumed) := by
  unfold startAsked
  refine (flowFor_confined contact.tenant text).andThen fun flow own => ?_
  split
  · exact confined_pure _
  · exact (startHeld_confined s contact _ text name phone).andThen fun _ _ => confined_pure _

theorem receive_confined (s : Settings) (contact : Contact) (text name phone : Option String) :
    Confined (some contact.key) own (receive s contact text name phone) := by
  refine confined_holding ((resumeAwaiting_confined s contact text).andThen fun resumed own => ?_)
  split
  · exact confined_pure _
  · exact startAsked_confined s contact text name phone resumed

theorem cancel_confined (contact : Contact) :
    Confined (some contact.key) own (cancel contact) := by
  refine confined_holding (confined_store rfl fun ids _ => ?_)
  exact keeps_bind_of_same (confined_cancelTimers fun id => List.mem_append_left own)
    fun _ => confined_pure _

theorem active_confined (contact : Contact) :
    Confined (some contact.key) own (active contact) :=
  keeps_store.2 ⟨rfl, fun _ _ => trivial⟩

theorem wake_confined (s : Settings) (w : Wake) (hid : w.conversation ∈ own) :
    Confined (some w.contact.key) own (wake s w) := by
  refine (confined_holding (continueHeld_confined s w hid)).andThen fun done own => ?_
  split
  · exact confined_pure _
  · split
    · refine keeps_bind.2 (keeps_ask.2 ⟨trivial, fun answer _ => ?_⟩)
      exact Confined.andThen (keeps_ofExcept.2 trivial) fun _ _ => confined_pure _
    · exact confined_pure _

end Parley.Desk
