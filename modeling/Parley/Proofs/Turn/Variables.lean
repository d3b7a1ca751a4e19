import Parley.Proofs.Turn.Stops
import Parley.Proofs.Turn.Twins

/-!
# What a turn does to the variables

An answer to a question is accepted as a value or refused (`Question.accepts_or_refuses`). A visit
gives a variable a value only at a question that accepts the message in hand, and at a call that
keeps its answer (`Turn.Stores`). It leaves every other variable alone, and takes none away
(`Turn.Amends`, `visit_amends`).

So a turn that settles has amended the variables that were stored at one of its stops
(`amends_of_settled`), and has kept them all, whatever is answered outside (`advance_keepsNames`).
-/

namespace Parley

open Text Answer

/-- The other conversation has every variable that this one has. -/
def Conversation.KeepsNames (b c : Conversation) : Prop :=
  ∀ name, (b.valueOf? name).isSome → (c.valueOf? name).isSome

theorem Conversation.KeepsNames.trans {b c d : Conversation} (h : b.KeepsNames c)
    (k : c.KeepsNames d) : b.KeepsNames d := fun name hb => k name (h name hb)

theorem Conversation.keepsNames_assign (c : Conversation) (name : String) (value : Json) :
    c.KeepsNames (c.assign name value) := by
  intro other hother
  rw [Turn.valueOf?_assign]
  split
  · rfl
  · exact hother

namespace Question

variable {answer : String}

/-- An answer to the question is accepted as a value: one is given where it must be, and the value
is what its format keeps of it. -/
def Accepts (q : Question) (answer value : String) : Prop :=
  ¬ (q.required = true ∧ isAllBlank answer = true) ∧
    judge (.ofName q.format) answer = .accepted value

/-- An answer to the question is refused: nothing is said where something must be, or it does not
have the format. -/
def Refuses (q : Question) (answer : String) : Prop :=
  q.required = true ∧ isAllBlank answer = true ∨
    ∃ kind message, judge (.ofName q.format) answer = .refused kind message

/-- A blank answer has every format, and nothing of it is kept. -/
theorem judge_of_isAllBlank (h : isAllBlank answer = true) (format : Format) :
    judge format answer = .accepted "" := by
  have hblank : ∀ c ∈ answer.toList, isBlank c = true := List.all_eq_true.1 h
  unfold judge strip
  rw [stripChars_eq_nil_iff.2 hblank]
  exact if_pos rfl

theorem refusalText_ne_empty {format : Format} (h : format ≠ .anything) :
    format.refusalText ≠ "" := by
  match format with
  | .anything => exact absurd rfl h
  | .email | .phone | .number | .plate => decide
  | .document .cpf | .document .cnpj | .document .cnh => decide

/-- There are words for every refusal. -/
theorem ne_empty_of_judge {format : Format} {kind : RefusalKind} {message : String}
    (h : judge format answer = .refused kind message) : message ≠ "" := by
  unfold judge at h
  dsimp only at h
  split at h
  · cases h
  · split at h
    · cases h
    · rename_i haccepts
      obtain ⟨-, rfl⟩ := Verdict.refused.inj h
      exact refusalText_ne_empty fun hany => haccepts (by rw [hany, Format.accepts])

theorem accepts_or_refuses (q : Question) (answer : String) :
    (∃ value, q.Accepts answer value) ∨ q.Refuses answer := by
  by_cases hmissing : q.required = true ∧ isAllBlank answer = true
  · exact .inr (.inl hmissing)
  · cases hjudge : judge (.ofName q.format) answer with
    | accepted value => exact .inl ⟨value, hmissing, hjudge⟩
    | refused kind message => exact .inr (.inr ⟨kind, message, hjudge⟩)

/-- The variables with the value of an answer, where the question names one for it. -/
def keep (q : Question) (value : String) (vars : Fields) : Fields :=
  match Turn.given q.variable_ with
  | some name => Dictionary.put vars name (.str value)
  | none => vars

end Question

namespace Turn

variable {t u v : Turn} {n m : Node} {W W' : String → Prop}

/-! ## Answers to questions -/

theorem firstGiven_ne_empty (texts : List (Option String)) {default : String}
    (h : default ≠ "") : firstGiven texts default ≠ "" := by
  unfold firstGiven
  cases hfound : texts.findSome? given with
  | none => exact h
  | some text =>
    obtain ⟨given?, -, hgiven⟩ := List.exists_of_findSome?_eq_some hfound
    simpa using (Option.filter_eq_some_iff.1 hgiven).2

/-- A question that refuses the message in hand asks for another one, and waits for it. -/
theorem visitQuestion_of_refuses {q : Question} {answer : String} (n : Node)
    (hpending : t.pending = some answer) (h : q.Refuses answer) :
    ∃ said, said ≠ "" ∧
      t.visitQuestion n q = (t.withoutInput, { onward := .wait, text := some said }) := by
  unfold visitQuestion
  rw [hpending]
  dsimp only
  by_cases hblank : isAllBlank answer = true
  · obtain ⟨hrequired, -⟩ | ⟨kind, message, hjudge⟩ := h
    · rw [if_pos hblank, if_pos hrequired]
      exact ⟨_, by decide, rfl⟩
    · rw [Question.judge_of_isAllBlank hblank] at hjudge
      cases hjudge
  · obtain ⟨-, hblank'⟩ | ⟨kind, message, hjudge⟩ := h
    · exact absurd hblank' hblank
    · rw [if_neg hblank, hjudge]
      exact ⟨_, firstGiven_ne_empty _ (Question.ne_empty_of_judge hjudge), rfl⟩

/-- The turn after an answer is accepted as a value. -/
def keepValue (t : Turn) (q : Question) (value : String) : Turn :=
  { t.withoutInput with conversation := { t.conversation with vars := q.keep value t.vars } }

/-- A question that accepts the message in hand keeps the value and goes on. -/
theorem visitQuestion_of_accepts {q : Question} {answer value : String} (n : Node)
    (hpending : t.pending = some answer) (h : q.Accepts answer value) :
    t.visitQuestion n q = (t.keepValue q value, (t.keepValue q value).nextOrFinish n) := by
  obtain ⟨hgiven, hjudge⟩ := h
  unfold visitQuestion keepValue Question.keep
  rw [hpending]
  dsimp only
  by_cases hblank : isAllBlank answer = true
  · obtain rfl : "" = value := by
      rw [Question.judge_of_isAllBlank hblank] at hjudge
      cases hjudge
      rfl
    rw [if_pos hblank, if_neg fun hrequired => hgiven ⟨hrequired, hblank⟩]
    cases given q.variable_ <;> rfl
  · rw [if_neg hblank, hjudge]
    cases given q.variable_ <;> rfl

/-! ## Variables that are stored -/

/-- A visit to the node may give a variable a value: the node is a question that accepts the message
in hand, or a call that keeps its answer. -/
def Stores (t : Turn) (n : Node) (name : String) : Prop :=
  (∃ q answer value, n.body = .question q ∧ t.pending = some answer ∧ q.Accepts answer value ∧
    given q.variable_ = some name) ∨ n.KeepsAnswerAs name

/-- The other turn has the same values but for certain variables, and has not lost a variable. -/
structure Amends (W : String → Prop) (t u : Turn) : Prop where
  same : ∀ name, ¬ W name → u.conversation.valueOf? name = t.conversation.valueOf? name
  kept : t.conversation.KeepsNames u.conversation

theorem amends_of_vars (h : u.vars = t.vars) : t.Amends W u := by
  have hvalues : ∀ name, u.conversation.valueOf? name = t.conversation.valueOf? name :=
    fun name => congrArg (Dictionary.find? · name) h
  exact ⟨fun name _ => hvalues name, fun name => by rw [hvalues]; exact id⟩

theorem Amends.trans (h : t.Amends W u) (k : u.Amends W v) : t.Amends W v :=
  ⟨fun name hname => (k.same name hname).trans (h.same name hname), h.kept.trans k.kept⟩

theorem Amends.mono (h : t.Amends W u) (hW : ∀ name, W name → W' name) : t.Amends W' u :=
  ⟨fun name hname => h.same name fun hw => hname (hW name hw), h.kept⟩

theorem Amends.of_vars (h : t.Amends W u) (hv : v.vars = u.vars) : t.Amends W v :=
  h.trans (amends_of_vars hv)

theorem amends_assign {name : String} (hname : W name) (t : Turn) (value : Json) :
    t.Amends W (t.assign name value) where
  same other hother := by
    show (t.conversation.assign name value).valueOf? other = _
    rw [valueOf?_assign, if_neg (by rintro rfl; exact hother hname)]
  kept := t.conversation.keepsNames_assign name value

/-! ## Visits -/

theorem visitAttachment_amends (t : Turn) (n : Node) (kind : AttachmentKind) (a : Attachment) :
    (t.visitAttachment n kind a).Yields
      (Program.Either (fun r => t.Amends W r.1) fun _ => True) := by
  unfold visitAttachment
  refine Program.yields_bind.2 ((Program.yields_true _).mono fun r _ => ?_)
  cases r with
  | error e => exact trivial
  | ok media => cases media <;> exact amends_of_vars rfl

theorem visitQuestion_amends {q : Question} (hn : n.body = .question q) :
    t.Amends (t.Stores n) (t.visitQuestion n q).1 := by
  cases hpending : t.pending with
  | none =>
    refine amends_of_vars ?_
    unfold visitQuestion
    rw [hpending]
    rfl
  | some answer =>
    obtain ⟨value, haccepts⟩ | hrefuses := q.accepts_or_refuses answer
    · rw [visitQuestion_of_accepts n hpending haccepts]
      unfold keepValue Question.keep
      cases hgiven : given q.variable_ with
      | none => exact amends_of_vars rfl
      | some name =>
        have hstores : t.Stores n name :=
          .inl ⟨q, answer, value, hn, hpending, haccepts, hgiven⟩
        exact (amends_assign hstores t (.str value)).of_vars rfl
    · obtain ⟨said, -, hvisit⟩ := visitQuestion_of_refuses n hpending hrefuses
      rw [hvisit]
      exact amends_of_vars rfl

theorem visitBranch_amends (t : Turn) (n : Node) (b : Branch) :
    Program.Either (fun r => t.Amends W r.1) (fun _ => True) (t.visitBranch n b) := by
  unfold visitBranch
  cases t.pending with
  | none => exact amends_of_vars rfl
  | some answer =>
    dsimp only
    cases Condition.select b.rules answer t.vars with
    | error e => exact trivial
    | ok chosen =>
      cases chosen with
      | none => exact amends_of_vars rfl
      | some place =>
        simp only [Except.map]
        cases ruleTarget? t.flow n place.2 <;> exact amends_of_vars rfl

theorem visitPause_amends (t : Turn) (n : Node) (p : Pause) :
    t.Amends W (t.visitPause n p).1 := by
  unfold visitPause
  dsimp only
  split <;> exact amends_of_vars rfl

theorem visitCall_amends {c : Call} (hn : n.body = .call c) :
    (t.visitCall n c).Yields
      (Program.Either (fun r => t.Amends (t.Stores n) r.1) fun _ => True) := by
  unfold visitCall
  refine Program.yields_bind.2 (Program.yields_ofExcept.2 ?_)
  cases t.callRequest c with
  | error e => exact trivial
  | ok request =>
    refine Program.yields_bind.2 (Program.yields_call.2 fun answer => ?_)
    cases answer with
    | error e => exact amends_of_vars rfl
    | ok a =>
      refine Program.yields_pure.2 ?_
      show t.Amends _ (if _ then _ else _)
      split
      · rename_i hkeeps
        exact amends_assign (.inr ⟨c, hn, (Bool.and_eq_true_iff.1 hkeeps).2, rfl⟩) t a.body
      · exact amends_of_vars rfl

theorem visitHandover_amends (t : Turn) (h : Handover) :
    (t.visitHandover h).Yields (Program.Either (fun r => t.Amends W r.1) fun _ => True) := by
  have hafter : ∀ s : Step, t.Amends W ((t.withoutInput, s) : Turn × Step).1 :=
    fun s => amends_of_vars rfl
  unfold visitHandover
  dsimp only
  split
  · refine Program.yields_bind.2 (Program.yields_call.2 fun r => ?_)
    rcases r with _ | _ | _
    · exact hafter _
    · exact Program.yields_bind.2 (Program.yields_call.2 fun r => hafter _)
    · exact hafter _
  · exact hafter _

/-- A visit amends nothing but what may be stored at the node. -/
theorem visit_amends (t : Turn) (n : Node) :
    (t.visit n).Yields (Program.Either (fun r => t.Amends (t.Stores n) r.1) fun _ => True) := by
  unfold visit
  split
  · exact amends_of_vars rfl
  · exact amends_of_vars rfl
  · exact amends_of_vars rfl
  · exact visitAttachment_amends ..
  · exact visitQuestion_amends ‹_›
  · exact Program.yields_ofExcept.2 (visitBranch_amends ..)
  · exact visitPause_amends ..
  · exact visitCall_amends ‹_›
  · exact visitHandover_amends ..
  · exact amends_of_vars rfl
  · exact amends_of_vars rfl

/-! ## Turns -/

/-- The turn as a step leaves it. -/
def Onto.turn : Onto → Turn
  | .ended u => u
  | .node u _ => u

theorem take_vars (t : Turn) (step : Step) : (t.take step).turn.vars = t.vars := by
  unfold take
  cases step.onward with
  | wait | park | finish => rfl
  | next id keeps => cases keeps <;> dsimp only <;> split <;> rfl

/-- A step amends nothing but what may be stored at its node, and nothing where it passes that. -/
theorem step_amends (t : Turn) (n : Node) (resuming : Bool) :
    (t.step n resuming).Yields (Program.Either
      (fun onto => t.Amends (fun name => visits n resuming = true ∧ t.Stores n name) onto.turn)
      fun _ => True) := by
  refine yields_step (fun _ => ?_) (fun hvisited => ?_) fun _ => trivial
  · exact amends_of_vars (take_vars ..)
  · refine (visit_amends (t.standAt n.id) n).mono ?_
    rintro (e | r) hr
    · exact trivial
    · have hstands : t.Amends (t.Stores n) (t.standAt n.id) := amends_of_vars rfl
      have hvisit : t.Amends (t.Stores n) r.1 := hstands.trans hr
      exact (hvisit.mono fun name hname => ⟨hvisited, hname⟩).of_vars
        (take_vars (r.1.record n .executed none r.2.text) r.2)

/-- What a turn that settles has kept. -/
def KeepsNames (t : Turn) : Course → Prop
  | .settled u => t.conversation.KeepsNames u.conversation
  | .broken _ _ => True

/-- A turn that settles has kept all variables, whatever is answered outside. -/
theorem advance_keepsNames (left : Nat) (t : Turn) (n : Node) (resuming : Bool) :
    (t.advance left n resuming).Yields (Program.Either t.KeepsNames fun _ => True) := by
  induction left generalizing t n resuming with
  | zero =>
    refine yields_advance.2 ((step_amends t n resuming).mono ?_)
    rintro (e | u | ⟨u, m⟩) hr
    · exact trivial
    · exact hr.kept
    · exact hr.kept
  | succ left ih =>
    refine yields_advance.2 ((step_amends t n resuming).mono ?_)
    rintro (e | u | ⟨u, m⟩) hr
    · exact trivial
    · exact hr.kept
    · refine (ih (u.record m .entered) m false).mono ?_
      rintro (e | v | ⟨v, f⟩) hv
      · exact trivial
      · exact hr.kept.trans hv
      · exact trivial

section Stops

variable {σ : Type} {answer : (q : Outside.Ask) → σ → Except Failure q.Answer × σ} {s : σ}
  {left : Nat} {resuming : Bool}

/-- A variable may get a value at the stop. -/
def Stop.Stores (x : Stop σ) (name : String) : Prop :=
  x.visits = true ∧ x.turn.Stores x.node name

theorem Stop.IsReal.amends {x : Stop σ} {onto : Onto} (h : x.IsReal answer)
    (honto : x.onto = .ok onto) : x.turn.Amends x.Stores onto.turn := by
  have hamends := h.of_yields (step_amends ..)
  rw [honto] at hamends
  exact hamends

/-- What is amended on the way from one stop to the next is what may be stored at the first. -/
theorem Stop.IsReal.amends_next {x y : Stop σ} (h : x.IsReal answer) (hxy : x.Follows y) :
    x.turn.Amends x.Stores y.turn := by
  obtain ⟨u, honto, hturn, -⟩ := hxy
  exact (h.amends honto).of_vars (by rw [hturn]; rfl)

/-- A turn that settles has amended no variables but those that may get a value at its stops. -/
theorem amends_of_settled
    (h : ((t.advance left n resuming).run answer s).1 = .ok (.settled u)) :
    t.Amends (fun name => ∃ x ∈ t.stops answer left n resuming s, x.Stores name) u := by
  generalize hW : (fun name => ∃ x ∈ t.stops answer left n resuming s, x.Stores name) = W
  have hstores : ∀ x ∈ t.stops answer left n resuming s, ∀ name, x.Stores name → W name :=
    fun x hx name hname => hW ▸ ⟨x, hx, hname⟩
  have hamended : ∀ x ∈ t.stops answer left n resuming s, t.Amends W x.turn := by
    refine stops_induct (fun x hturn _ _ => ?_) fun x y hx hx' hxy => ?_
    · rw [hturn]
      exact amends_of_vars rfl
    · exact hx'.trans (((isReal_of_mem_stops hx).amends_next hxy).mono (hstores x hx))
  obtain ⟨x, hlast, hrun⟩ := run_advance answer left t n resuming s
  have hx := List.mem_of_getLast? hlast
  have hcourse : x.course = .settled u := Except.ok.inj (hrun.symm.trans h)
  obtain ⟨onto, honto, hvars⟩ : ∃ onto, x.onto = .ok onto ∧ u.vars = onto.turn.vars := by
    unfold Stop.course at hcourse
    rcases honto : x.onto with f | v | ⟨v, m⟩ <;> rw [honto] at hcourse <;> cases hcourse
    · exact ⟨_, rfl, rfl⟩
    · exact ⟨_, rfl, rfl⟩
  have hstep := ((isReal_of_mem_stops hx).amends honto).mono (hstores x hx)
  exact ((hamended x hx).trans hstep).of_vars hvars

end Stops

end Turn

end Parley
