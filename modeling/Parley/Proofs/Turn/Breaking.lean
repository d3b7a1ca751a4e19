import Parley.Proofs.Turn.Variables

/-!
# Where a turn breaks off

A turn tells of no failure itself: what it has told when it settles is what happened at its nodes
(`advance_quietly`). One that breaks off still belongs to the conversation with which it began. The
variable for the last message then holds what it held at the beginning, or a text that a question
took for an answer, unless a call of the flow keeps its answer there (`advance_holdsText`).
-/

namespace Parley.Turn

open Program

variable {t u : Turn} {n m : Node} {name : String}

/-- No failure is told of the turn so far. -/
def IsQuiet (t : Turn) : Prop := ∀ e ∈ t.history, e.action ≠ .error

/-- A turn that settles tells of no failure, and one that breaks off belongs to the conversation
with which it began. -/
def Quietly (t : Turn) : Course → Prop
  | .settled u => u.IsQuiet
  | .broken u _ => u.conversation.id = t.conversation.id

theorem isQuiet_of_history (h : t.history = []) : t.IsQuiet := by
  simp [IsQuiet, h]

theorem IsQuiet.record (h : t.IsQuiet) (n : Node) {a : Action} (ha : a ≠ .error)
    (input output label : Option String := none) : (t.record n a input output label).IsQuiet :=
  List.forall_mem_append.2 ⟨h, List.forall_mem_singleton.2 ha⟩

theorem IsQuiet.tells {executed : Bool} (h : t.IsQuiet) (htells : t.Tells n executed u) :
    u.IsQuiet := by
  obtain ⟨told, hu, habout, -⟩ := htells
  unfold IsQuiet
  rw [hu]
  refine List.forall_mem_append.2 ⟨h, fun e he => ?_⟩
  rcases (habout e he).action with ha | ha <;> simp [ha]

theorem advance_quietly (left : Nat) (ht : t.IsQuiet) (n : Node) (resuming : Bool) :
    (t.advance left n resuming).Yields (Either t.Quietly fun _ => True) := by
  induction left generalizing t n resuming with
  | zero =>
    refine yields_advance.2 ((step_goes t n resuming).mono ?_)
    rintro (e | u | ⟨u, m⟩) hr
    · exact rfl
    · exact ht.tells hr.2.1
    · exact ht.tells (u := u) hr.2.1
  | succ left ih =>
    refine yields_advance.2 ((step_goes t n resuming).mono ?_)
    rintro (e | u | ⟨u, m⟩) hr
    · exact rfl
    · exact ht.tells hr.2.1
    · obtain ⟨hs, htells, -⟩ := hr
      refine (ih ((ht.tells htells).record m (by simp)) m false).mono ?_
      rintro (e | _ | ⟨v, e⟩) hv
      · exact trivial
      · exact hv
      · exact Eq.trans hv hs.id

/-! ## The last message -/

/-- The variable for the last message holds a text, null or nothing. -/
def HoldsText (t : Turn) : Prop :=
  ∀ v, t.conversation.valueOf? "lastUserMessage" = some v → v = .null ∨ ∃ text, v = .str text

theorem HoldsText.of_same (h : t.HoldsText) (hsame : u.conversation.valueOf? "lastUserMessage" =
    t.conversation.valueOf? "lastUserMessage") : u.HoldsText :=
  fun v hv => h v (hsame.symm.trans hv)

theorem HoldsText.of_vars (h : t.HoldsText) (hvars : u.vars = t.vars) : u.HoldsText :=
  h.of_same (congrArg (Dictionary.find? · "lastUserMessage") hvars)

theorem HoldsText.assign (h : t.HoldsText) (name text : String) :
    (t.assign name (.str text)).HoldsText := by
  intro v hv
  have hvars : (t.assign name (.str text)).conversation =
    t.conversation.assign name (.str text) := rfl
  rw [hvars, valueOf?_assign] at hv
  split at hv
  · exact .inr ⟨text, (Option.some.inj hv).symm⟩
  · exact h v hv

/-- A question keeps a text, or nothing. -/
theorem visitQuestion_holdsText (h : t.HoldsText) (n : Node) (q : Question) :
    (t.visitQuestion n q).1.HoldsText := by
  cases hpending : t.pending with
  | none =>
    refine h.of_vars ?_
    unfold visitQuestion
    rw [hpending]
    rfl
  | some answer =>
    obtain ⟨value, haccepts⟩ | hrefuses := q.accepts_or_refuses answer
    · rw [visitQuestion_of_accepts n hpending haccepts]
      unfold keepValue Question.keep
      cases given q.variable_ with
      | none => exact h.of_vars rfl
      | some name => exact (h.assign name value).of_vars rfl
    · obtain ⟨said, -, hvisit⟩ := visitQuestion_of_refuses n hpending hrefuses
      rw [hvisit]
      exact h.of_vars rfl

/-- A visit puts nothing but a text in the place of the last message, except for a call that keeps
its answer there. -/
theorem visit_holdsText (h : t.HoldsText) (hn : ¬ n.KeepsAnswerAs "lastUserMessage") :
    (t.visit n).Yields (Either (fun r => r.1.HoldsText) fun _ => True) := by
  by_cases hquestion : ∃ q, n.body = .question q
  · obtain ⟨q, hq⟩ := hquestion
    unfold visit
    rw [hq]
    exact visitQuestion_holdsText h n q
  · refine (visit_amends t n).mono ?_
    rintro (e | r) hr
    · exact trivial
    · refine h.of_same (hr.same _ ?_)
      rintro (⟨q, _, _, hq, -⟩ | hkeeps)
      · exact hquestion ⟨q, hq⟩
      · exact hn hkeeps

theorem step_holdsText (h : t.HoldsText) (hn : ¬ n.KeepsAnswerAs "lastUserMessage")
    (resuming : Bool) :
    (t.step n resuming).Yields (Either (fun onto => onto.turn.HoldsText) fun _ => True) := by
  refine yields_step (fun _ => ?_) (fun _ => ?_) fun _ => trivial
  · exact h.of_vars (take_vars ..)
  · refine (visit_holdsText (t := t.standAt n.id) (h.of_vars rfl) hn).mono ?_
    rintro (e | r) hr
    · exact trivial
    · exact HoldsText.of_vars hr (take_vars (r.1.record n .executed none r.2.text) r.2)

/-- What a turn that breaks off leaves in the place of the last message. -/
def BreaksWithText : Course → Prop
  | .settled _ => True
  | .broken u _ => u.HoldsText

/-- In a flow of which no call keeps its answer there, the last message is a text wherever a turn
breaks off. -/
theorem advance_holdsText (left : Nat) (h : t.HoldsText) (hn : n ∈ t.flow.nodes)
    (hcalls : ∀ m ∈ t.flow.nodes, ¬ m.KeepsAnswerAs "lastUserMessage") (resuming : Bool) :
    (t.advance left n resuming).Yields (Either BreaksWithText fun _ => True) := by
  induction left generalizing t n resuming with
  | zero =>
    refine yields_advance.2 ((yields_true _).mono ?_)
    rintro (e | u | ⟨u, m⟩) -
    · exact h.of_vars rfl
    · exact trivial
    · exact trivial
  | succ left ih =>
    have hstep := (step_goes t n resuming).and (step_holdsText h (hcalls n hn) resuming)
    refine yields_advance.2 (hstep.mono ?_)
    rintro (e | u | ⟨u, m⟩) ⟨hgoes, htext⟩
    · exact h.of_vars rfl
    · exact trivial
    · obtain ⟨hs, -, -, hm, -⟩ := hgoes
      have hflow : (u.record m .entered).flow = t.flow := hs.flow
      have hu : (u.record m .entered).HoldsText := HoldsText.of_vars htext rfl
      exact ih hu (hflow ▸ hm) (hflow ▸ hcalls) false

/-- A turn at its beginning: it has told of no failure, and its message is a text. -/
structure IsBegun (t : Turn) (n : Node) : Prop where
  quiet : t.IsQuiet
  text : t.HoldsText
  mem : n ∈ t.flow.nodes

end Parley.Turn
