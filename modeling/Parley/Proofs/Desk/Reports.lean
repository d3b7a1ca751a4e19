import Parley.Proofs.Desk.Rules

/-!
# What a result reports

A result that is successful describes a conversation (`TurnResult.Describes`): the one that was kept
last, as it was kept. `Desk.reporting` is the protocol of that. Its standing is the conversation that
a piece of work has kept last (`Desk.lastKept`), and none once it has ended the active conversations
of a contact, so that what a start has put an end to is reported no more. The protocol supposes that
no write is refused.

A message may do two turns, one of the conversation that waits for it and one of a flow that it
starts. A turn that fails keeps nothing and ends nothing, so that behind a start that fails the turn
before it is the last one still (`Reports.leaves`), and behind one that succeeds its result is
reported and no other (`startAsked_reports`).
-/

namespace Parley

/-- A result tells how a conversation stands. -/
structure TurnResult.Describes (r : TurnResult) (c : Conversation) : Prop where
  conversation : r.conversation = some c.id
  node : r.node = some c.node
  awaitsInput : r.awaitsInput = c.awaitsInput
  finished : r.finished = !c.isActive

namespace Desk

open Program

/-- A write is not refused. -/
def Ask.IsAccepted : (q : Ask) → q.Answer → Prop
  | .store (.create _), .error _ => False
  | .store (.save _ _), .error _ => False
  | .store (.deactivate _), .error _ => False
  | _, _ => True

/-- The conversation that was kept last under a key, after an answer. -/
def lastKept : Option Conversation → (q : Ask) → q.Answer → Option Conversation
  | _, .acquire _, _ => none
  | _, .store (.create _), .ok c => some c
  | _, .store (.save _ _), .ok c => some c
  | _, .store (.deactivate _), _ => none
  | last, _, _ => last

/-- Nothing is delivered. -/
def Ask.IsSilent : Ask → Prop
  | .deliver _ _ => False
  | _ => True

/-- The protocol of work that reports what it has kept. -/
def reporting : Protocol Access (Option Conversation) where
  may _ := Ask.IsSilent
  hears := Ask.IsAccepted
  after := lastKept

/-- A successful result describes the conversation that was kept last. -/
def Describes (t : TurnResult) (last : Option Conversation) : Prop :=
  t.success = true → ∃ c, last = some c ∧ t.Describes c

/-- What work comes to that had kept a conversation before, or none. -/
structure Reports (before : Option Conversation) (r : Except Failure TurnResult)
    (last : Option Conversation) : Prop where
  describes : ∀ t, r = .ok t → Describes t last
  /-- A turn that fails has kept and ended nothing. -/
  leaves : ∀ t, r = .ok t → t.success = false → last = before

variable {α : Type} {last before : Option Conversation}

theorem describes_failed (error : String) (conversation node : Option String) :
    Describes (.failed error conversation node) last := fun hs => by cases hs

theorem reports_failed (error : String) (conversation node : Option String) :
    Reports before (.ok (.failed error conversation node)) before := by
  refine ⟨?_, fun _ _ _ => rfl⟩
  rintro t ⟨⟩
  exact describes_failed error conversation node

theorem reports_error (e : Failure) : Reports before (.error e) last where
  describes t ht := by cases ht
  leaves t ht := by cases ht

/-! ## Keeping what a turn has done -/

theorem replaceActive_reports (c : Conversation) :
    (replaceActive c).Keeps reporting before
      fun r last => Either (fun kept => last = some kept) (fun _ => False) r := by
  unfold replaceActive
  refine keeps_bind.2 (keeps_store.2 ⟨trivial, fun r hr => ?_⟩)
  cases r with
  | error e => exact hr.elim
  | ok ids =>
    refine keeps_bind_of_same (cancelTimers_keeps fun id _ => ⟨trivial, fun _ => rfl⟩) fun _ => ?_
    refine keeps_store.2 ⟨trivial, fun r hr => ?_⟩
    cases r with
    | error e => exact hr.elim
    | ok kept => exact rfl

theorem keep_reports (t : Turn) :
    (keep t).Keeps reporting before
      fun r last => Either (fun kept => last = some kept) (fun _ => False) r := by
  unfold keep
  split
  · exact replaceActive_reports t.conversation
  · refine keeps_store.2 ⟨trivial, fun r hr => ?_⟩
    cases r with
    | error e => exact hr.elim
    | ok kept => exact rfl

theorem reports_resultOf (s : Settings) (t : Turn) (kept : Conversation) :
    Reports before (.ok (resultOf s t kept)) (some kept) := by
  refine ⟨?_, by rintro t ⟨⟩ hfailed; cases hfailed⟩
  rintro t ⟨⟩ -
  exact ⟨kept, rfl, rfl, rfl, rfl, rfl⟩

theorem commit_reports (s : Settings) (t : Turn) :
    (commit s t).Keeps reporting before (Reports before) := by
  unfold commit
  refine keeps_bind.2 (keeps_attempt.2 ((keep_reports t).mono fun r last hlast => ?_))
  refine either_ok.2 ?_
  cases r with
  | error e => exact hlast.elim
  | ok kept =>
    obtain rfl : last = some kept := hlast
    refine keeps_bind_of_same (writeHistory_keeps fun e _ => ⟨trivial, fun _ => rfl⟩) fun _ => ?_
    refine keeps_bind_of_same (settleTimer_keeps (fun _ _ => ⟨trivial, fun _ => rfl⟩)
      ⟨trivial, fun _ => rfl⟩) fun _ => reports_resultOf s t kept

theorem noteFailure_reports (t : Turn) (n : Node) (resuming : Bool) (f : Failure) :
    (noteFailure t n resuming f).Keeps reporting before (Reports before) :=
  noteFailure_keeps (fun _ _ => ⟨trivial, fun _ => rfl⟩) reports_error fun _ _ => reports_failed ..

theorem runTurn_reports (s : Settings) (t : Turn) (n : Node) (resuming : Bool) :
    (do
      let done ← runTurn s t n resuming
      pure done.2 : Work TurnResult).Keeps reporting before (Reports before) :=
  runTurn_keeps (fun _ => ⟨trivial, fun _ => rfl⟩) reports_error (commit_reports s)
    fun u f => noteFailure_reports u n resuming f

/-! ## The operations -/

theorem startHeld_reports (s : Settings) (contact : Contact) (flowId : String)
    (text name phone : Option String) :
    (startHeld s contact flowId text name phone).Keeps reporting before (Reports before) :=
  startHeld_keeps ⟨trivial, fun _ => rfl⟩ ⟨trivial, fun _ => rfl⟩ ⟨trivial, fun _ => rfl⟩
    reports_error (fun _ => reports_failed ..) fun t n => runTurn_reports s t n false

theorem resumeHeld_reports (s : Settings) (contact : Contact) (text : Option String) :
    (resumeHeld s contact text).Keeps reporting before (Reports before) :=
  resumeHeld_keeps ⟨trivial, fun _ => rfl⟩ (fun _ => ⟨trivial, fun _ => rfl⟩)
    ⟨trivial, fun _ => rfl⟩ reports_error reports_failed (runTurn_reports s)

theorem resumeAwaiting_reports (s : Settings) (contact : Contact) (text : Option String) :
    (resumeAwaiting s contact text).Keeps reporting before
      fun r last => ∀ t, r = .ok (some t) → Describes t last := by
  unfold resumeAwaiting
  refine Passes.keeps_store_bind ⟨trivial, fun _ => rfl⟩ (fun e t ht => by cases ht)
    fun active _ => ?_
  split
  · refine keeps_bind.2 ((resumeHeld_reports s contact text).mono fun r last hr => ?_)
    cases r with
    | error e => exact fun t ht => by cases ht
    | ok result =>
      rintro t ⟨⟩
      exact hr.describes result rfl
  · exact fun t ht => by cases ht

/-- Behind a turn that the message did, or none, what counts is the start that it asks for, or, where
that fails or there is none, that turn. -/
theorem startAsked_reports (s : Settings) (contact : Contact) (text name phone : Option String)
    {resumed : Option TurnResult} (h : ∀ t, resumed = some t → Describes t before) :
    (startAsked s contact text name phone resumed).Keeps reporting before
      fun r last => ∀ t, r = .ok t → Describes t last := by
  have hotherwise :
      Describes (resumed.getD (.failed "No active flow and no trigger matched")) before := by
    cases resumed with
    | none => exact describes_failed _ none none
    | some t => exact h t rfl
  unfold startAsked
  generalize resumed.getD _ = otherwise at hotherwise ⊢
  refine keeps_bind.2 ((flowFor_keeps ⟨trivial, fun _ => rfl⟩).mono fun r last hlast => ?_)
  obtain rfl : last = before := hlast
  cases r with
  | error e => exact fun t ht => by cases ht
  | ok flow =>
    refine either_ok.2 ?_
    split
    · rintro t ⟨⟩
      exact hotherwise
    · refine keeps_bind.2 ((startHeld_reports s contact _ text name phone).mono fun r last' hr => ?_)
      cases r with
      | error e => exact fun t ht => by cases ht
      | ok started =>
        show ∀ t, Except.ok (if started.success || resumed.isNone then started else otherwise) =
          .ok t → Describes t last'
        rintro t ⟨⟩
        split
        · exact hr.describes started rfl
        · -- The start has failed, so the turn before it is the last one that was kept.
          rename_i hfailed
          have hfailed : started.success = false := by simp_all
          rw [hr.leaves started rfl hfailed]
          exact hotherwise

theorem receiveHeld_reports (s : Settings) (contact : Contact) (text name phone : Option String) :
    (do
      let resumed ← resumeAwaiting s contact text
      match resumed.filter fun r => r.success && r.hasResponse with
      | some r => pure r
      | none => startAsked s contact text name phone resumed : Work TurnResult).Keeps reporting
      before fun r last => ∀ t, r = .ok t → Describes t last := by
  refine keeps_bind.2 ((resumeAwaiting_reports s contact text).mono fun r last hr => ?_)
  cases r with
  | error e => exact fun t ht => by cases ht
  | ok resumed =>
    have hresumed : ∀ t, resumed = some t → Describes t last := by
      rintro t rfl
      exact hr t rfl
    refine either_ok.2 ?_
    split
    · rename_i t hfound
      obtain ⟨rfl, -⟩ := Option.filter_eq_some_iff.1 hfound
      rintro t' ⟨⟩
      exact hresumed t rfl
    · exact startAsked_reports s contact text name phone hresumed

end Desk

end Parley
