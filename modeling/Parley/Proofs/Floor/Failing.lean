import Parley.Proofs.Desk.Restraint
import Parley.Proofs.Floor.Moves
import Parley.Proofs.Floor.Opening
import Parley.Proofs.Store.Versions

/-!
# What a failed turn leaves behind

`Floor.Goes` follows one job through its steps while everybody else does what they like to the floor
in between. Only once the job has ended the active conversations of a key nobody comes in between
until the new one is kept: these questions go to a ledger and to timers of the desk's own, which
answer at once.

`Restricted` ties the job to `Desk.restraint`, and it adds what the restraint does not know of the
ledger: while a conversation is being replaced its key has no active one, so that the new one is not
refused (`Restricted.go`). Read backwards from a failed result, every step was a clean one, and a
clean step spares the books (`spared_of_clean`): `Floor.spared_of_failed`.
-/

namespace Parley

open Desk (Ask Errand Outcome Stage restraint)

namespace Desk

/-- Whether an errand runs a turn that somebody asked for. -/
def Errand.isTurn : Errand → Bool
  | .start _ _ _ _ _ | .resume _ _ | .receive _ _ _ _ => true
  | _ => false

/-- A turn that failed has left nothing behind, unless it was thwarted. -/
structure Failing (r : Except Failure Outcome) (s : Stage) : Prop where
  not_replacing : ∀ key, s ≠ .replacing key
  clean : ∀ t, r = .ok (.turn t) → t.success = false → s = .clean ∨ s = .thwarted

theorem Restrained.failing {work : Work TurnResult} (h : Restrained work) :
    (work >>= fun r => pure (.turn r)).Keeps restraint .clean Failing := by
  refine Program.keeps_bind.2 (Program.Keeps.mono h fun r s hs => ?_)
  cases r with
  | error e => exact ⟨hs, fun t ht => by cases ht⟩
  | ok r =>
    refine ⟨hs.not_replacing, ?_⟩
    rintro t ht hfailed
    cases ht
    rcases hs with rfl | rfl
    · exact Or.inr rfl
    · rw [hfailed]
      exact Or.inl rfl

theorem Errand.work_restrained (s : Settings) {e : Errand} (he : e.isTurn = true) :
    (e.work s).Keeps restraint .clean Failing := by
  cases e with
  | start contact flowId text name phone =>
    exact (start_restrained s contact flowId text name phone).failing
  | resume contact text => exact (resume_restrained s contact text).failing
  | receive contact text name phone =>
    exact (receive_restrained s contact text name phone).failing
  | _ => cases he

/-- Whether the next question comes between the end of a key's active conversations and the keeping
of the new one. -/
def isReplacing {α : Type} : Work α → Bool
  | .ask (.cancelTimer _) _ | .ask (.store (.create _)) _ => true
  | _ => false

/-- While a conversation is being replaced nothing else is asked. -/
theorem isReplacing_of_keeps {α : Type} {work : Work α} {key : String}
    {Q : Except Failure α → Stage → Prop} (h : work.Keeps restraint (.replacing key) Q)
    (hQ : ∀ r, ¬ Q r (.replacing key)) : isReplacing work = true := by
  cases work with
  | done a => exact absurd h (hQ _)
  | fail e => exact absurd h (hQ _)
  | ask q next =>
    have hmay : q.Replaces key := h.1
    cases q with
    | cancelTimer id => rfl
    | store q =>
      cases q with
      | create c => rfl
      | _ => exact hmay.elim
    | _ => exact hmay.elim

end Desk

section
variable {δ : Type}

/-- The later books have nothing on record but further notes of failures. -/
structure Spared (b b' : Books δ) : Prop where
  conversations : b'.ledger.conversations = b.ledger.conversations
  flows : b'.ledger.flows = b.ledger.flows
  timers : b'.timers = b.timers
  history : ∀ id, ∃ es : List Entry,
    b'.ledger.historyOf id = b.ledger.historyOf id ++ es ∧ ∀ e ∈ es, e.action = .error

theorem Spared.of_ledger {b b' : Books δ} (hl : b'.ledger = b.ledger) (ht : b'.timers = b.timers) :
    Spared b b' where
  conversations := by rw [hl]
  flows := by rw [hl]
  timers := ht
  history id := ⟨[], by simp [hl], by simp⟩

variable [DecidableEq δ]

/-- A job goes through some of its steps, and everybody else does anything in between; the books
before and after every step of the job are listed. -/
inductive Floor.Goes (i : Nat) : Floor δ → List (Books δ × Books δ) → Floor δ → Prop where
  | stays (f : Floor δ) : Goes i f [] f
  | goes {f g : Floor δ} {l : List (Books δ × Books δ)} (around : Around)
    (h : Goes i (f.go i around) l g) : Goes i f ((f.books, (f.go i around).books) :: l) g
  /-- Others change the floor; the job is left as it is, and is not just replacing a conversation. -/
  | others {f f' g : Floor δ} {l : List (Books δ × Books δ)} (hjobs : f'.jobs i = f.jobs i)
    (hrests : ∀ job, f.jobs i = some job → Desk.isReplacing job.work = false)
    (h : Goes i f' l g) : Goes i f l g

/-- A job is at a stage of its work, and may go on. -/
structure Restricted (f : Floor δ) (i : Nat) (s : Stage) : Prop where
  keeps : ∃ job, f.jobs i = some job ∧ job.work.Keeps restraint s Desk.Failing
  cleared : ∀ key, s = .replacing key → f.books.ledger.active? key = none
  not_thwarted : s ≠ .thwarted

variable {f : Floor δ} {i : Nat} {s : Stage}

/-- What is answered to work that has kept nothing, and leaves it so, spares the books. -/
theorem spared_of_clean {d : δ} {around : Around} {q : Ask} {r : q.Answer}
    (hmay : Stage.clean.May q) (hr : (f.answer i d around q).1 = some r)
    (hafter : Stage.clean.after q r = .clean) :
    Spared f.books (f.answer i d around q).2.books := by
  cases q with
  | schedule id seconds w => exact hmay.elim
  | cancelTimer id => exact hmay.elim
  | freshId => unfold Floor.answer; split <;> exact .of_ledger rfl rfl
  | store q =>
    have hr : (f.books.ledger.answer around.now q).1 = r := Option.some.inj hr
    cases q with
    | create c => exact hmay.elim
    | deactivate contact =>
      subst hr
      cases hafter
    | append e =>
      have herror : e.action = .error := hmay
      refine ⟨rfl, rfl, rfl, fun id => ?_⟩
      show ∃ es, (f.books.ledger.append e).historyOf id = _ ∧ _
      rw [Ledger.historyOf_append]
      split
      · exact ⟨[e], rfl, by simpa using herror⟩
      · exact ⟨[], by simp, by simp⟩
    | save c version =>
      -- A save that went through would have ended the clean stage.
      cases r with
      | ok kept => cases hafter
      | error e => exact .of_ledger (Ledger.answer_of_error hr) rfl
    | _ => exact .of_ledger rfl rfl
  | _ => exact .of_ledger rfl rfl

/-- An answer brings no work into a stage in which a conversation is replaced whose key has another
active one, and so the new one is not refused. -/
theorem cleared_after {d : δ} {around : Around} {q : Ask} {r : q.Answer}
    (hcleared : ∀ key, s = .replacing key → f.books.ledger.active? key = none)
    (hs : s ≠ .thwarted) (hmay : s.May q) (hr : (f.answer i d around q).1 = some r) :
    (∀ key, s.after q r = .replacing key →
      (f.answer i d around q).2.books.ledger.active? key = none) ∧ s.after q r ≠ .thwarted := by
  cases s with
  | thwarted => exact absurd rfl hs
  | kept => rw [Stage.IsLast.after (Or.inl rfl)]; simp
  | clean =>
    cases q with
    | store q =>
      cases q with
      | deactivate contact =>
        cases hr
        refine ⟨?_, by simp [Stage.after]⟩
        rintro key ⟨⟩
        exact Ledger.active?_deactivate _ _ _
      | save c version => cases r <;> simp [Stage.after]
      | create c => exact hmay.elim
      | _ => simp [Stage.after]
    | _ => simp [Stage.after]
  | replacing key =>
    have hkey := hcleared key rfl
    cases q with
    | cancelTimer id =>
      refine ⟨?_, by simp [Stage.after]⟩
      rintro key' ⟨⟩
      exact hkey
    | store q =>
      cases q with
      | create c =>
        obtain rfl : c.key = key := hmay
        -- This is where the ledger has to be free of active conversations of the key.
        have hr : (f.books.ledger.create c).1 = r := Option.some.inj hr
        rw [Ledger.create_of_active? hkey] at hr
        subst hr
        simp [Stage.after]
      | _ => exact hmay.elim
    | _ => exact hmay.elim

theorem Restricted.go (h : Restricted f i s) (around : Around) :
    ∃ s', Restricted (f.go i around) i s' ∧
      (s' = .clean → s = .clean ∧ Spared f.books (f.go i around).books) := by
  obtain ⟨job, hj, hkeeps⟩ := h.keeps
  rcases f.go_cases i around with ⟨hjobs, hbooks⟩ | ⟨job', q, next, r, hj', hw, hr, hgo⟩
  · refine ⟨s, ⟨⟨job, by rw [hjobs, hj], hkeeps⟩, ?_, h.not_thwarted⟩, fun hs => ⟨hs, ?_⟩⟩
    · rw [hbooks]
      exact h.cleared
    · exact .of_ledger (by rw [hbooks]) (by rw [hbooks])
  · obtain rfl : job = job' := Option.some.inj (hj.symm.trans hj')
    rw [hw] at hkeeps
    obtain ⟨hmay, hnext⟩ := hkeeps
    obtain ⟨hcleared, hs⟩ := cleared_after h.cleared h.not_thwarted hmay hr
    rw [hgo]
    refine ⟨s.after q r, ⟨⟨_, Function.update_self .., hnext r trivial⟩, hcleared, hs⟩, ?_⟩
    intro hafter
    obtain rfl := Stage.eq_clean_of_after hafter
    exact ⟨rfl, spared_of_clean hmay hr hafter⟩

omit [DecidableEq δ] in
theorem Restricted.others {f' : Floor δ} (h : Restricted f i s) (hjobs : f'.jobs i = f.jobs i)
    (hrests : ∀ job, f.jobs i = some job → Desk.isReplacing job.work = false) :
    Restricted f' i s := by
  obtain ⟨job, hj, hkeeps⟩ := h.keeps
  refine ⟨⟨job, hjobs.trans hj, hkeeps⟩, ?_, h.not_thwarted⟩
  rintro key rfl
  have hreplacing := Desk.isReplacing_of_keeps hkeeps fun r hr => hr.not_replacing key rfl
  rw [hrests job hj] at hreplacing
  cases hreplacing

/-- Every step of a job that comes to a failed result was a clean one. -/
theorem Restricted.spared {g : Floor δ} {l : List (Books δ × Books δ)} (hgoes : Floor.Goes i f l g)
    (h : Restricted f i s) {job : Job δ} {t : TurnResult} (hj : g.jobs i = some job)
    (hw : job.work = .done (.turn t)) (ht : t.success = false) :
    s = .clean ∧ ∀ p ∈ l, Spared p.1 p.2 := by
  -- Stages do not return to clean, so a clean end makes all of them clean.
  induction hgoes generalizing s with
  | stays f =>
    obtain ⟨job', hj', hkeeps⟩ := h.keeps
    obtain rfl : job = job' := Option.some.inj (hj.symm.trans hj')
    rw [hw] at hkeeps
    exact ⟨(hkeeps.clean t rfl ht).resolve_right h.not_thwarted, by simp⟩
  | goes around _ ih =>
    obtain ⟨s', h', hclean⟩ := h.go around
    obtain ⟨hs', hrest⟩ := ih h' hj
    obtain ⟨hs, hspared⟩ := hclean hs'
    exact ⟨hs, List.forall_mem_cons.2 ⟨hspared, hrest⟩⟩
  | others hjobs hrests _ ih => exact ih (h.others hjobs hrests) hj

namespace Floor

/-- A job that comes to a failed turn has spared the books in every one of its steps, whatever the
surroundings answered and whatever everybody else wrote in between: no conversation was kept, ended
or changed by it, no timer set or cancelled, and the only entries that it wrote note failures. -/
theorem spared_of_failed {g : Floor δ} {d : δ} {e : Errand} {l : List (Books δ × Books δ)}
    (he : e.isTurn = true) (hgoes : Goes i (f.take i d e) l g) {job : Job δ} {t : TurnResult}
    (hj : g.jobs i = some job) (hw : job.work = .done (.turn t)) (ht : t.success = false) :
    ∀ p ∈ l, Spared p.1 p.2 := by
  have h : Restricted (f.take i d e) i .clean :=
    ⟨⟨_, Function.update_self .., Errand.work_restrained _ he⟩, (by rintro key ⟨⟩), nofun⟩
  exact (h.spared hgoes hj hw ht).2

theorem goes_replicate (f : Floor δ) (i : Nat) (around : Around) (n : Nat) :
    ∃ l, Goes i f l (f.run (List.replicate n (.go i around))) := by
  induction n generalizing f with
  | zero => exact ⟨[], .stays f⟩
  | succ n ih =>
    obtain ⟨l, h⟩ := ih (f.go i around)
    exact ⟨_, .goes around h⟩

end Floor

end

def meanwhile : Conversation where
  id := "other"
  contact := visitor
  flowId := "pausing"
  node := "word"
  awaitsInput := true
  createdAt := Rehearsal.Clock.usualStart
  updatedAt := Rehearsal.Clock.usualStart

def Floor.meanwhileKept (f : Floor Unit) : Floor Unit :=
  { f with books := { f.books with ledger := f.books.ledger.keep meanwhile } }

/-- The visitor starts the flow with a pause. -/
def starting : Floor Unit :=
  (pausingFloor Unit (.ofInt 5)).take 0 () (.start visitor "pausing" none none none)

/-- The start holds its key and has been given its flow. -/
def flowGiven : Floor Unit := (starting.go 0 (quietly none)).go 0 (quietly none)

theorem flowGiven_eq : flowGiven =
    ((pausingFloor Unit (.ofInt 5)).setLocks () (({} : KeyedLock Nat).enter 0 visitor.key)).assign 0
      (some {
        desk := (), errand := .start visitor "pausing" none none none
        work := Floor.rest visitor.key (Desk.firstTurn {} visitor "pausing" (pausing (.ofInt 5))
          { id := "start", body := .start } none none none) }) :=
  pausingFloor_run () (.ofInt 5)

/-- The start goes on, with the start node out of order, after the other conversation was kept. -/
def startBroken : Floor Unit :=
  flowGiven.meanwhileKept.run (List.replicate 8 (.go 0 (quietly (some .start))))

/-- The failed turn that a job has come to. -/
def failedTurn? (job : Job Unit) : Option TurnResult :=
  match job.work with
  | .done (.turn t) => if t.success then none else some t
  | _ => none

theorem eq_of_failedTurn? {job : Job Unit} {t : TurnResult} (h : failedTurn? job = some t) :
    job.work = .done (.turn t) ∧ t.success = false := by
  unfold failedTurn? at h
  split at h
  · rename_i r hw
    split at h
    · cases h
    · rename_i hfailed
      cases h
      exact ⟨hw, by simpa using hfailed⟩
  · cases h

/-- The start comes to a failed turn, and the other conversation stays. -/
theorem Floor.spared_startBroken :
    ∃ l job t, Goes 0 starting l startBroken ∧ startBroken.jobs 0 = some job ∧
      job.work = .done (.turn t) ∧ t.success = false ∧
      startBroken.books.ledger.all = [meanwhile] ∧ ∀ p ∈ l, Spared p.1 p.2 := by
  have hend : ((startBroken.jobs 0).bind failedTurn?).isSome = true := by
    unfold startBroken
    rw [flowGiven_eq]
    decide +kernel
  have hall : startBroken.books.ledger.all = [meanwhile] := by
    unfold startBroken
    rw [flowGiven_eq]
    decide +kernel
  obtain ⟨t, ht⟩ := Option.isSome_iff_exists.1 hend
  obtain ⟨job, hj, hjob⟩ := Option.bind_eq_some_iff.1 ht
  obtain ⟨hw, hfailed⟩ := eq_of_failedTurn? hjob
  obtain ⟨l, hl⟩ := goes_replicate flowGiven.meanwhileKept 0 (quietly (some .start)) 8
  -- The first turn asks for the time next, so others may come in between.
  have hrests : ∀ job, flowGiven.jobs 0 = some job → Desk.isReplacing job.work = false := by
    intro job hjob
    rw [flowGiven_eq] at hjob
    cases hjob
    rfl
  have hjobs : flowGiven.meanwhileKept.jobs 0 = flowGiven.jobs 0 := rfl
  have hothers : Goes 0 flowGiven l startBroken := .others hjobs hrests hl
  have hgoes : Goes 0 starting _ startBroken := .goes (quietly none) (.goes (quietly none) hothers)
  exact ⟨_, job, t, hgoes, hj, hw, hfailed, hall, spared_of_failed rfl hgoes hj hw hfailed⟩

end Parley
