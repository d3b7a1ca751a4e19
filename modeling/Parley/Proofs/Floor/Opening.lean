import Mathlib.Data.List.Basic
import Parley.Proofs.Floor.Basic
import Parley.Rehearsal.Clock

/-!
# The first turn on a floor

A flow that can be used may be started at any desk. Once the desk holds the contact's key and has
been given the flow, what is left of the job is the first turn (`Floor.run_start`).
-/

namespace Parley

open Desk (Ask Errand Outcome)

/-- Whoever comes first for a key holds it. -/
theorem KeyedLock.holder?_enter_empty {ω : Type} [DecidableEq ω] (w : ω) (key : String) :
    (({} : KeyedLock ω).enter w key).holder? key = some w := by
  simp [enter, withEntry, change, holder?, entry?, guard?, Guard.enter, Dictionary.put,
    Dictionary.find?]

namespace Floor

variable {δ : Type}

@[simp] theorem assign_jobs_self (f : Floor δ) (i : Nat) (job : Option (Job δ)) :
    (f.assign i job).jobs i = job := Function.update_self ..

theorem assign_assign (f : Floor δ) (i : Nat) (a b : Option (Job δ)) :
    (f.assign i a).assign i b = f.assign i b := by
  simp [assign]

/-- What is left of a start of which the part under the key is left. -/
def rest (key : String) (held : Desk.Work TurnResult) : Desk.Work Outcome := do
  let r ← (do
    let result ← held.attempt
    Desk.ask (.release key)
    Program.ofExcept result)
  pure (.turn r)

/-- A desk that is given a flow it can use goes on with the first turn. -/
theorem startHeld_of_usable {g : Flow} {n : Node} (s : Desk.Settings) (contact : Contact)
    (flowId : String) (text name phone : Option String) (hen : g.enabled = true)
    (hn : g.start? = some n) (hu : g.isUsable = true) :
    ∃ next, Desk.startHeld s contact flowId text name phone =
        .ask (.store (.flow contact.tenant flowId)) next ∧
      next (.ok (some g)) = Desk.firstTurn s contact flowId g n text name phone := by
  have hfound : (some g).filter (·.enabled) = some g := by
    rw [Option.filter_some, if_pos hen]
  refine ⟨_, rfl, ?_⟩
  simp [Program.ofExcept, hfound, hn, hu]

variable [DecidableEq δ]

/-- A job whose question is answered goes on. -/
theorem go_of_answer {f g : Floor δ} {i : Nat} {around : Around} {j : Job δ} {q : Ask}
    {next : q.Answer → Desk.Work Outcome} {r : q.Answer} (hj : f.jobs i = some j)
    (hw : j.work = .ask q next) (ha : f.answer i j.desk around q = (some r, g)) :
    f.go i around = g.assign i (some { j with work := next r, kept := j.kept ++ keptBy q r }) := by
  unfold go
  rw [hj]
  simp only [hw, ha]

/-- A start of a flow that can be used comes to its first turn. -/
theorem run_start {settings : δ → Desk.Settings} {flows : Dictionary Flow} {contact : Contact}
    {flowId : String} {g : Flow} {n : Node} (text name phone : Option String) (i : Nat) (d : δ)
    (around : Around) (hg : Dictionary.find? flows flowId = some g)
    (hfor : Ledger.isFor contact.tenant g = true) (hen : g.enabled = true)
    (hn : g.start? = some n) (hu : g.isUsable = true) :
    (opening settings flows).run [.begin i d (.start contact flowId text name phone),
      .go i around, .go i around] =
    ((opening settings flows).setLocks d (({} : KeyedLock Nat).enter i contact.key)).assign i
      (some {
        desk := d, errand := .start contact flowId text name phone
        work := rest contact.key
          (Desk.firstTurn (settings d) contact flowId g n text name phone) }) := by
  obtain ⟨next, hheld, hnext⟩ :=
    startHeld_of_usable (settings d) contact flowId text name phone hen hn hu
  let e : Errand := .start contact flowId text name phone
  let locks := ({} : KeyedLock Nat).enter i contact.key
  let asking : Job δ := {
    desk := d, errand := e
    work := .ask (.store (.flow contact.tenant flowId)) fun r => rest contact.key (next r) }
  let f := (opening settings flows).take i d e
  let f₁ := (f.setLocks d locks).assign i (some asking)
  have hwork : e.work (settings d) = .ask (.acquire contact.key) fun _ => asking.work := by
    show (Desk.holding contact.key (Desk.startHeld _ _ _ _ _ _) >>= _) = _
    rw [hheld]
    rfl
  have hlock : f.answer i d around (.acquire contact.key) = (some (), f.setLocks d locks) := by
    show (if locks.holder? contact.key = some i then some () else none, f.setLocks d locks) = _
    rw [KeyedLock.holder?_enter_empty, if_pos rfl]
  have hflow : f₁.answer i d around (.store (.flow contact.tenant flowId)) =
      (some (.ok (some g)), f₁) := by
    show (some (Except.ok ((Dictionary.find? flows flowId).filter (Ledger.isFor contact.tenant))),
      f₁) = _
    rw [hg, Option.filter_some, if_pos hfor]
  have hfirst : f.go i around = f₁ := go_of_answer (f := f)
    (j := { desk := d, errand := e, work := e.work (settings d) }) (Function.update_self ..)
    hwork hlock
  have hsecond := go_of_answer (f := f₁) (j := asking) (Function.update_self ..) rfl hflow
  show (f.go i around).go i around = _
  rw [hfirst, hsecond, assign_assign, hnext]
  exact assign_assign ((opening settings flows).setLocks d locks) i _ _

end Floor

/-! ## A flow with a pause -/

/-- A flow that says something after a pause. -/
def pausing (amount : Number.Binary64) : Flow where
  id := "pausing"
  nodes := [
    { id := "start", body := .start },
    { id := "pause", body := .pause { amount := some amount } },
    { id := "word", body := .message { text := some "Still there?", awaitInput := false } },
    { id := "end", body := .ending none }]
  edges := [
    { source := "start", target := "pause" },
    { source := "pause", target := "word" },
    { source := "word", target := "end" }]
  nodup_ids := by simp

theorem isUsable_pausing (amount : Number.Binary64) : (pausing amount).isUsable = true := by cbv

/-- Surroundings in which the nodes of one kind at most cannot be entered. -/
def quietly (broken : Option NodeKind) : Around where
  outside
    | .enter kind => if broken.any (· == kind) then .error (.raised "out of order") else .ok ()
    | _ => .error (.raised "nobody answers")
  now := Rehearsal.Clock.usualStart
  freshId := "talk"

/-- A contact. -/
def visitor : Contact where
  tenant := "company"
  session := "session"
  person := "person"

/-- Desks that can start the flow with a pause. -/
def pausingFloor (δ : Type) (amount : Number.Binary64) : Floor δ :=
  .opening (fun _ => {}) [("pausing", pausing amount)]

/-- A start of the flow with a pause comes to its first turn. -/
theorem pausingFloor_run {δ : Type} [DecidableEq δ] (d : δ) (amount : Number.Binary64) :
    (pausingFloor δ amount).run [.begin 0 d (.start visitor "pausing" none none none),
      .go 0 (quietly none), .go 0 (quietly none)] =
    ((pausingFloor δ amount).setLocks d (({} : KeyedLock Nat).enter 0 visitor.key)).assign 0
      (some {
        desk := d, errand := .start visitor "pausing" none none none
        work := Floor.rest visitor.key (Desk.firstTurn {} visitor "pausing" (pausing amount)
          { id := "start", body := .start } none none none) }) :=
  Floor.run_start none none none 0 d (quietly none) rfl rfl rfl rfl (isUsable_pausing amount)

end Parley
