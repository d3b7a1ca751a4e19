import Parley.Proofs.Desk.Rules

/-!
# A turn that fails is restrained

Whether a turn will fail is not known while it is under way, so nothing that it does before its end
may be more than a note of a failure. `Desk.Stage` says how far a piece of work has got, and
`Desk.restraint` is the protocol:

* while it is `clean` it keeps nothing new, sets and cancels no timer, and notes failures only;
* once it has ended the active conversations of a key, it cancels their timers and keeps a new
  conversation of that key, before it does anything else.

`start_restrained`, `resume_restrained` and `receive_restrained` say that work which comes to a failed
result is `clean` then, and work which comes to a successful one has kept a turn (`Desk.Ends`). The
one way out is a key that still has an active conversation right after all of them were ended
(`Stage.thwarted`); whether that can be is for the store to say.
-/

namespace Parley.Desk

open Program

/-- How far a piece of work has got. -/
inductive Stage where
  /-- Nothing was written but notes of failures. -/
  | clean
  /-- The active conversations of a key were ended, and a new one is about to be kept. -/
  | replacing (key : String)
  /-- A turn was kept. -/
  | kept
  /-- The new conversation was refused, although the active ones of its key were ended. -/
  | thwarted
  deriving DecidableEq

/-- A question that puts a new conversation of a key in the place of those that were ended. -/
def Ask.Replaces (key : String) : Ask → Prop
  | .cancelTimer _ => True
  | .store (.create c) => c.key = key
  | _ => False

namespace Stage

def May : Stage → Ask → Prop
  | clean, .store (.create _) => False
  | clean, .store (.append e) => e.action = .error
  | clean, .schedule _ _ _ => False
  | clean, .cancelTimer _ => False
  | replacing key, q => q.Replaces key
  | _, _ => True

/-- The stage after an answer. -/
def after : Stage → (q : Ask) → q.Answer → Stage
  | clean, .store (.deactivate contact), .ok _ => replacing contact.key
  | clean, .store (.save _ _), .ok _ => kept
  | replacing _, .store (.create _), .ok _ => kept
  | replacing _, .store (.create _), .error _ => thwarted
  | s, _, _ => s

/-- What comes after this stage does not matter any more. -/
def IsLast (s : Stage) : Prop := s = kept ∨ s = thwarted

theorem IsLast.may {s : Stage} (h : s.IsLast) (q : Ask) : s.May q := by
  rcases h with rfl | rfl <;> cases q <;> exact trivial

theorem IsLast.after {s : Stage} (h : s.IsLast) (q : Ask) (r : q.Answer) : s.after q r = s := by
  rcases h with rfl | rfl <;> cases q <;> rfl

/-- A stage is left for good. -/
theorem eq_clean_of_after {s : Stage} {q : Ask} {r : q.Answer} (h : s.after q r = clean) :
    s = clean := by
  cases s with
  | clean => rfl
  | replacing key =>
    cases q with
    | store q =>
      cases q with
      | create c => cases r <;> cases h
      | _ => exact h
    | _ => exact h
  | kept => rwa [IsLast.after (Or.inl rfl)] at h
  | thwarted => rwa [IsLast.after (Or.inr rfl)] at h

end Stage

/-- The protocol of work that may fail. -/
def restraint : Protocol Access Stage where
  may := Stage.May
  hears _ _ := True
  after := Stage.after

/-- How work may end: a successful turn was kept, one that failed has left nothing behind. -/
def Ends (r : Except Failure TurnResult) (s : Stage) : Prop :=
  Either (fun r => s = .thwarted ∨ s = if r.success then .kept else .clean)
    (fun _ => ∀ key, s ≠ .replacing key) r

/-- Work that has kept nothing so far ends as it may. -/
def Restrained (work : Work TurnResult) : Prop := work.Keeps restraint .clean Ends

variable {α : Type} {s : Stage}

theorem ends_failed (error : String) (conversation node : Option String) :
    Ends (.ok (.failed error conversation node)) .clean := Or.inr rfl

theorem Ends.not_replacing {r : Except Failure TurnResult} (h : Ends r s) (key : String) :
    s ≠ .replacing key := by
  cases r with
  | error e => exact h key
  | ok t =>
    rcases h with rfl | rfl
    · simp
    · cases t.success <;> simp

theorem Stage.IsLast.passes (h : s.IsLast) (q : Ask) : Passes restraint s q := ⟨h.may q, h.after q⟩

theorem Stage.IsLast.not_replacing (h : s.IsLast) (key : String) : s ≠ .replacing key := by
  rcases h with rfl | rfl <;> simp

/-- From the last stages on, anything goes. -/
theorem keeps_of_isLast (h : s.IsLast) (work : Work α) :
    work.Keeps restraint s fun _ t => t = s := by
  induction work with
  | done a => rfl
  | fail e => rfl
  | ask q next ih =>
    refine ⟨h.may q, fun r _ => ?_⟩
    show (next r).Keeps restraint (s.after q r) _
    rw [h.after]
    exact ih r

/-! ## Questions -/

theorem clean_outside (q : Outside.Ask) : Passes restraint .clean (.outside q) :=
  ⟨trivial, fun _ => rfl⟩

theorem restrained_holding {key : String} {work : Work TurnResult} (h : Restrained work) :
    Restrained (holding key work) := by
  refine keeps_holding ⟨trivial, fun _ => rfl⟩ h fun r t ht => ?_
  cases t with
  | replacing key => exact absurd rfl (ht.not_replacing key)
  | _ => exact ⟨trivial, fun _ => rfl⟩

/-! ## Keeping what a turn has done -/

/-- Either something was kept, or nothing was written, unless the work was thwarted. -/
def KeptOrClean (r : Except Failure Conversation) (s : Stage) : Prop :=
  Either (fun _ => s = .kept) (fun _ => s = .clean ∨ s = .thwarted) r

theorem replaceActive_restrained (c : Conversation) :
    (replaceActive c).Keeps restraint .clean KeptOrClean := by
  unfold replaceActive
  refine keeps_bind.2 (keeps_store.2 ⟨trivial, fun r _ => ?_⟩)
  cases r with
  | error e => exact Or.inl rfl
  | ok ids =>
    refine keeps_bind_of_same (cancelTimers_keeps fun id _ => ⟨trivial, fun _ => rfl⟩) fun _ => ?_
    refine keeps_store.2 ⟨rfl, fun r _ => ?_⟩
    cases r with
    | error e => exact Or.inr rfl
    | ok kept => exact rfl

theorem keep_restrained (t : Turn) : (keep t).Keeps restraint .clean KeptOrClean := by
  unfold keep
  split
  · exact replaceActive_restrained t.conversation
  · refine keeps_store.2 ⟨trivial, fun r _ => ?_⟩
    cases r with
    | error e => exact Or.inl rfl
    | ok kept => exact rfl

theorem commit_restrained (s : Settings) (t : Turn) : Restrained (commit s t) := by
  unfold commit
  refine keeps_bind.2 (keeps_attempt.2 ((keep_restrained t).mono fun r stage hstage => ?_))
  refine either_ok.2 ?_
  cases r with
  | ok kept =>
    -- The entries and the timer of a turn come after it was kept, and cannot fail it any more.
    obtain rfl : stage = .kept := hstage
    have last : Stage.IsLast .kept := Or.inl rfl
    refine keeps_bind_of_same (writeHistory_keeps fun e _ => last.passes _) fun _ => ?_
    refine keeps_bind.2 ((keeps_of_isLast last _).mono fun r stage hstage => ?_)
    obtain rfl : stage = .kept := hstage
    cases r with
    | error e => exact fun key h => by cases h
    | ok u => exact Or.inr rfl
  | error e =>
    have hstage : stage = .clean ∨ stage = .thwarted := hstage
    have hfailed : ∀ key, stage ≠ .replacing key := by
      rcases hstage with rfl | rfl <;> simp
    -- A conflict is told as a failed result, any other failure is passed on.
    cases e with
    | conflict id expected found => exact hstage.symm
    | _ => exact hfailed

theorem noteFailure_restrained (t : Turn) (n : Node) (resuming : Bool) (f : Failure) :
    Restrained (noteFailure t n resuming f) :=
  noteFailure_keeps (fun _ he => ⟨he, fun _ => rfl⟩) (fun e key h => by cases h)
    fun _ _ => ends_failed _ _ _

theorem runTurn_restrained (s : Settings) (t : Turn) (n : Node) (resuming : Bool) :
    Restrained (do
      let done ← runTurn s t n resuming
      pure done.2) :=
  runTurn_keeps clean_outside (fun e key h => by cases h) (commit_restrained s)
    fun u f => noteFailure_restrained u n resuming f

/-! ## The operations -/

theorem startHeld_restrained (s : Settings) (contact : Contact) (flowId : String)
    (text name phone : Option String) : Restrained (startHeld s contact flowId text name phone) :=
  startHeld_keeps ⟨trivial, fun _ => rfl⟩ ⟨trivial, fun _ => rfl⟩ ⟨trivial, fun _ => rfl⟩
    (fun e key h => by cases h) (fun _ => ends_failed _ _ _) fun t n => runTurn_restrained s t n false

theorem resumeHeld_restrained (s : Settings) (contact : Contact) (text : Option String) :
    Restrained (resumeHeld s contact text) :=
  resumeHeld_keeps ⟨trivial, fun _ => rfl⟩ (fun _ => ⟨trivial, fun _ => rfl⟩)
    ⟨trivial, fun _ => rfl⟩ (fun e key h => by cases h) ends_failed (runTurn_restrained s)

/-- Where no conversation waits for the message nothing was kept, and otherwise the turn ends as it
may. -/
def Answered (r : Except Failure (Option TurnResult)) (s : Stage) : Prop :=
  Either (fun resumed => resumed.elim (s = .clean) fun t => Ends (.ok t) s)
    (fun _ => ∀ key, s ≠ .replacing key) r

theorem resumeAwaiting_restrained (s : Settings) (contact : Contact) (text : Option String) :
    (resumeAwaiting s contact text).Keeps restraint .clean Answered := by
  unfold resumeAwaiting
  refine Passes.keeps_store_bind ⟨trivial, fun _ => rfl⟩ (fun e key h => by cases h)
    fun active _ => ?_
  split
  · refine keeps_bind.2 (Keeps.mono (resumeHeld_restrained s contact text) fun r stage hr => ?_)
    cases r <;> exact hr
  · rfl

theorem Answered.ends_otherwise {resumed : Option TurnResult} (h : Answered (.ok resumed) s)
    (error : String) : Ends (.ok (resumed.getD (.failed error))) s := by
  cases resumed with
  | none =>
    obtain rfl : s = .clean := h
    exact ends_failed _ _ _
  | some t => exact h

/-- Behind a turn that was kept, whatever is done comes to a success. -/
theorem startAsked_kept (settings : Settings) (contact : Contact) (text name phone : Option String)
    {resumed : TurnResult} (h : resumed.success = true) :
    (startAsked settings contact text name phone (some resumed)).Keeps restraint .kept Ends := by
  have last : Stage.IsLast .kept := Or.inl rfl
  have hresumed : Ends (.ok resumed) .kept := Or.inr (by rw [h]; rfl)
  unfold startAsked
  refine keeps_bind.2 ((keeps_of_isLast last _).mono fun r t ht => ?_)
  subst ht
  cases r with
  | error e => exact last.not_replacing
  | ok flow =>
    refine either_ok.2 ?_
    split
    · exact hresumed
    · refine keeps_bind.2 ((keeps_of_isLast last _).mono fun r t ht => ?_)
      subst ht
      cases r with
      | error e => exact last.not_replacing
      | ok started =>
        -- A start that fails leaves the result of the resumed conversation.
        show Ends (.ok (if started.success || false then started else resumed)) .kept
        split
        · rename_i hstarted
          exact Or.inr (by simpa using hstarted)
        · exact hresumed

/-- Where nothing was kept so far, a start that fails gives way to what the message came to without
it. -/
theorem startAsked_clean (settings : Settings) (contact : Contact) (text name phone : Option String)
    {resumed : Option TurnResult} (h : Answered (.ok resumed) .clean) :
    Restrained (startAsked settings contact text name phone resumed) := by
  have hotherwise := h.ends_otherwise "No active flow and no trigger matched"
  unfold startAsked
  generalize resumed.getD _ = otherwise at hotherwise ⊢
  refine keeps_bind.2 ((flowFor_keeps ⟨trivial, fun _ => rfl⟩).mono fun r t ht => ?_)
  subst ht
  cases r with
  | error e => exact fun key h => by cases h
  | ok flow =>
    refine either_ok.2 ?_
    split
    · exact hotherwise
    · refine keeps_bind.2 (Keeps.mono (startHeld_restrained settings contact _ text name phone) ?_)
      intro r t ht
      cases r with
      | error e => exact ht
      | ok started =>
        show Ends (.ok (if started.success || resumed.isNone then started else otherwise)) t
        split
        · exact ht
        · rename_i hfailed
          have hfailed : started.success = false := by simp_all
          rcases ht with rfl | rfl
          · exact Or.inl rfl
          · rw [hfailed]
            exact hotherwise

theorem startAsked_restrained (settings : Settings) (contact : Contact)
    (text name phone : Option String) {resumed : Option TurnResult}
    (h : Answered (.ok resumed) s) :
    (startAsked settings contact text name phone resumed).Keeps restraint s Ends := by
  cases s with
  | clean => exact startAsked_clean settings contact text name phone h
  | replacing key =>
    exact absurd rfl ((h.ends_otherwise "").not_replacing key)
  | kept =>
    cases resumed with
    | none => cases h
    | some t =>
      rcases h with h | h
      · cases h
      · have ht : t.success = true := by
          cases hs : t.success with
          | true => rfl
          | false => simp [hs] at h
        exact startAsked_kept settings contact text name phone ht
  | thwarted =>
    have last : Stage.IsLast .thwarted := Or.inr rfl
    refine (keeps_of_isLast last _).mono fun r t ht => ?_
    subst ht
    cases r with
    | error e => exact last.not_replacing
    | ok t => exact Or.inl rfl

theorem start_restrained (s : Settings) (contact : Contact) (flowId : String)
    (text name phone : Option String) : Restrained (start s contact flowId text name phone) :=
  restrained_holding (startHeld_restrained s contact flowId text name phone)

theorem resume_restrained (s : Settings) (contact : Contact) (text : Option String) :
    Restrained (resume s contact text) :=
  restrained_holding (resumeHeld_restrained s contact text)

theorem receive_restrained (s : Settings) (contact : Contact) (text name phone : Option String) :
    Restrained (receive s contact text name phone) := by
  refine restrained_holding (keeps_bind.2 ((resumeAwaiting_restrained s contact text).mono ?_))
  intro r stage hr
  cases r with
  | error e => exact hr
  | ok resumed =>
    refine either_ok.2 ?_
    split
    · rename_i t hfound
      obtain ⟨rfl, -⟩ := Option.filter_eq_some_iff.1 hfound
      exact hr
    · exact startAsked_restrained s contact text name phone hr

end Parley.Desk
