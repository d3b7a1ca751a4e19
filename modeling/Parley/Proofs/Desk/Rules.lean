import Parley.Desk.Operations
import Parley.Proofs.Program.Protocol

/-!
# Rules for the work of a desk

What a desk asks can be put under any `Protocol`. A question `Passes` it at a standing if it may be
asked there and leaves the standing as it is. The lemmas here take the pieces of a desk's work apart
that look the same under every protocol: questions to the store, what is asked outside, work for
which a key is held, entries written and timers cancelled one after the other. Turns and operations
are taken apart here for the protocols that do not mind what is looked up for them: what is left to
be shown is what comes of a commit and of a note of a failure.
-/

namespace Parley.Desk

open Program

variable {σ α : Type} {P : Protocol Access σ} {s : σ}

/-- A question may be asked at a standing, and leaves it as it is. -/
structure Passes (P : Protocol Access σ) (s : σ) (q : Ask) : Prop where
  may : P.may s q
  after : ∀ r, P.after s q r = s

theorem keeps_ask {q : Ask} {Q : Except Failure q.Answer → σ → Prop} :
    (ask q).Keeps P s Q ↔ P.may s q ∧ ∀ r, P.hears q r → Q (.ok r) (P.after s q r) := Iff.rfl

theorem keeps_store {q : Store.Ask} {Q : Except Failure q.Answer → σ → Prop} :
    (store q).Keeps P s Q ↔
      P.may s (.store q) ∧ ∀ r, P.hears (.store q) r → Q r (P.after s (.store q) r) := by
  unfold store
  rw [keeps_bind, keeps_ask]
  exact and_congr_right fun _ => forall₂_congr fun r _ => keeps_ofExcept

/-- What a question passes, work goes on from the same standing. -/
theorem Passes.keeps_bind {q : Ask} {f : q.Answer → Work α} {Q : Except Failure α → σ → Prop}
    (h : Passes P s q) (hf : ∀ r, P.hears q r → (f r).Keeps P s Q) :
    (ask q >>= f).Keeps P s Q := by
  refine Program.keeps_bind.2 (keeps_ask.2 ⟨h.may, fun r hr => ?_⟩)
  rw [h.after]
  exact hf r hr

/-- Work goes on with the answer of the store, from the same standing; where that fails, so does the
work. -/
theorem Passes.keeps_store_bind {q : Store.Ask} {f : q.Answer → Work α}
    {Q : Except Failure α → σ → Prop} (h : Passes P s (.store q)) (herror : ∀ e, Q (.error e) s)
    (hf : ∀ a, P.hears (.store q) (.ok a) → (f a).Keeps P s Q) :
    (store q >>= f).Keeps P s Q := by
  refine Program.keeps_bind.2 (keeps_store.2 ⟨h.may, fun r hr => ?_⟩)
  rw [h.after]
  cases r with
  | error e => exact herror e
  | ok a => exact hf a hr

theorem keeps_outside {p : Program Outside.Access α} {Q : Except Failure α → Prop}
    (hP : ∀ q, Passes P s (.outside q)) (h : p.Yields Q) :
    (outside p).Keeps P s fun r t => Q r ∧ t = s :=
  keeps_via (fun q => (keeps_ask (q := .outside q)).2 ⟨(hP q).may, fun r _ => (hP q).after r⟩) h

theorem keeps_holding {key : String} {work : Work α} {Q : Except Failure α → σ → Prop}
    (hacquire : Passes P s (.acquire key)) (h : work.Keeps P s Q)
    (hrelease : ∀ r t, Q r t → Passes P t (.release key)) : (holding key work).Keeps P s Q := by
  unfold holding
  refine hacquire.keeps_bind fun _ _ => Program.keeps_bind.2 (keeps_attempt.2 ?_)
  refine Keeps.mono h fun r t hr => ?_
  exact (hrelease r t hr).keeps_bind fun _ _ => keeps_ofExcept.2 hr

theorem writeHistory_keeps {es : List Entry}
    (h : ∀ e ∈ es, Passes P s (.store (.append e))) :
    (writeHistory es).Keeps P s fun r t => Either (fun _ => t = s) (fun _ => False) r := by
  induction es with
  | nil => exact rfl
  | cons e es ih =>
    exact (h e List.mem_cons_self).keeps_bind fun _ _ =>
      ih fun e' he' => h e' (List.mem_cons_of_mem _ he')

theorem cancelTimers_keeps {ids : List String} (h : ∀ id ∈ ids, Passes P s (.cancelTimer id)) :
    (cancelTimers ids).Keeps P s fun r t => Either (fun _ => t = s) (fun _ => False) r := by
  induction ids with
  | nil => exact rfl
  | cons id ids ih =>
    exact (h id List.mem_cons_self).keeps_bind fun _ _ =>
      ih fun id' hid' => h id' (List.mem_cons_of_mem _ hid')

/-- Work goes on behind a part of it that always succeeds and leaves the standing alone. -/
theorem keeps_bind_of_same {β : Type} {p : Work α} {f : α → Work β}
    {Q : Except Failure β → σ → Prop}
    (hp : p.Keeps P s fun r t => Either (fun _ => t = s) (fun _ => False) r)
    (hf : ∀ a, (f a).Keeps P s Q) : (p >>= f).Keeps P s Q := by
  refine Program.keeps_bind.2 (hp.mono fun r t ht => ?_)
  cases r with
  | error e => exact ht.elim
  | ok a =>
    obtain rfl : t = s := ht
    exact hf a

theorem settleTimer_keeps {t : Turn} {kept : Conversation}
    (hschedule : ∀ seconds w, Passes P s (.schedule kept.id seconds w))
    (hcancel : Passes P s (.cancelTimer kept.id)) :
    (settleTimer t kept).Keeps P s fun r t => Either (fun _ => t = s) (fun _ => False) r := by
  unfold settleTimer
  split
  · split
    · exact keeps_ask.2 ⟨(hschedule _ _).may, fun r _ => (hschedule _ _).after r⟩
    · exact rfl
  · exact keeps_ask.2 ⟨hcancel.may, fun r _ => hcancel.after r⟩

theorem flowFor_keeps {tenant : String} {text : Option String}
    (hflows : Passes P s (.store (.enabledFlows tenant))) :
    (flowFor tenant text).Keeps P s fun _ t => t = s := by
  unfold flowFor
  split
  · exact rfl
  · exact hflows.keeps_store_bind (fun _ => rfl) fun _ _ => rfl

section
variable {settings : Settings} {Q : Except Failure TurnResult → σ → Prop}

/-- A note of a failure is written, and the turn has failed. -/
theorem noteFailure_keeps {t : Turn} {n : Node} {resuming : Bool} {f : Failure}
    (happend : ∀ e : Entry, e.action = .error → Passes P s (.store (.append e)))
    (herror : ∀ e, Q (.error e) s)
    (hfailed : ∀ id node, Q (.ok (.failed ("Internal error at node " ++ node) id node)) s) :
    (noteFailure t n resuming f).Keeps P s Q := by
  unfold noteFailure
  refine Program.keeps_bind.2 (keeps_ofExcept.2 ?_)
  cases (if resuming then lastMessage t else .ok none : Except Failure (Option String)) with
  | error e => exact herror e
  | ok input =>
    refine keeps_bind_of_same (writeHistory_keeps fun e he => ?_) fun _ => hfailed _ _
    rw [List.mem_singleton.1 he]
    exact happend _ rfl

/-- A turn is committed where it settles, and noted where it breaks off. -/
theorem runTurn_keeps {t : Turn} {n : Node} {resuming : Bool}
    (houtside : ∀ q, Passes P s (.outside q)) (herror : ∀ e, Q (.error e) s)
    (hcommit : ∀ u, (commit settings u).Keeps P s Q)
    (hnote : ∀ u f, (noteFailure u n resuming f).Keeps P s Q) :
    (do
      let done ← runTurn settings t n resuming
      pure done.2 : Work TurnResult).Keeps P s Q := by
  have hsnd : ∀ {c : Conversation} {work : Work TurnResult}, work.Keeps P s Q →
      (work >>= fun result => pure (c, result) : Work (Conversation × TurnResult)).Keeps P s
        fun r t => Q (r.map (·.2)) t := by
    intro c work h
    refine Program.keeps_bind.2 (Keeps.mono h fun r t hr => ?_)
    cases r <;> exact hr
  have hturn : (runTurn settings t n resuming).Keeps P s fun r t => Q (r.map (·.2)) t := by
    unfold runTurn
    refine Program.keeps_bind.2 ((keeps_outside houtside (yields_true _)).mono ?_)
    rintro r t ⟨-, rfl⟩
    cases r with
    | error e => exact herror e
    | ok course =>
      cases course with
      | settled u => exact hsnd (hcommit u)
      | broken u f => exact hsnd (hnote u f)
  refine Program.keeps_bind.2 (hturn.mono fun r t hr => ?_)
  cases r <;> exact hr

/-- A start fails, or comes to a turn from the first node of the flow. -/
theorem startHeld_keeps {contact : Contact} {flowId : String} {text name phone : Option String}
    (hflow : Passes P s (.store (.flow contact.tenant flowId))) (hnow : Passes P s .now)
    (hfresh : Passes P s .freshId) (herror : ∀ e, Q (.error e) s)
    (hfailed : ∀ error, Q (.ok (.failed error)) s)
    (hturn : ∀ t n, (do
      let done ← runTurn settings t n false
      pure done.2 : Work TurnResult).Keeps P s Q) :
    (startHeld settings contact flowId text name phone).Keeps P s Q := by
  unfold startHeld
  refine hflow.keeps_store_bind herror fun found _ => ?_
  cases found.filter (·.enabled) with
  | none => exact hfailed _
  | some f =>
    cases hn : f.start? with
    | none =>
      simp only [hn]
      exact hfailed _
    | some n =>
      simp only [hn]
      split
      · unfold firstTurn
        exact hnow.keeps_bind fun now _ => hfresh.keeps_bind fun id _ => hturn _ n
      · exact hfailed _

/-- A message for the active conversation fails, or comes to a turn from the node where that waits. -/
theorem resumeHeld_keeps {contact : Contact} {text : Option String}
    (hactive : Passes P s (.store (.active contact)))
    (hflow : ∀ id, Passes P s (.store (.flow contact.tenant id))) (hnow : Passes P s .now)
    (herror : ∀ e, Q (.error e) s)
    (hfailed : ∀ error id node, Q (.ok (.failed error id node)) s)
    (hturn : ∀ t n resuming, (do
      let done ← runTurn settings t n resuming
      pure done.2 : Work TurnResult).Keeps P s Q) :
    (resumeHeld settings contact text).Keeps P s Q := by
  unfold resumeHeld
  refine hactive.keeps_store_bind herror fun active _ => ?_
  cases active with
  | none => exact hfailed _ _ _
  | some c =>
    show Keeps P (if c.awaitsInput then _ else _) s Q
    split
    · refine (hflow _).keeps_store_bind herror fun found _ => ?_
      cases found.bind fun f => (f.node? c.node).map (f, ·) with
      | none => exact hfailed _ _ _
      | some p => exact hnow.keeps_bind fun now _ => hturn _ p.2 _
    · exact hfailed _ _ _

end

end Parley.Desk
