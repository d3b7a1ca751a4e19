import Parley.Proofs.Desk.Attended
import Parley.Proofs.Turn.Ending
import Parley.Proofs.Turn.Stops

/-!
# Who is given the message of a turn

A turn begins with the message of its contact, or without one where it starts a conversation or goes
on after a timer. A node that is visited takes the message, and one that is passed hands it on
(`Turn.Stop.pending_of_follows`). Only the node at which a turn begins can be passed. So a question
or a branch has the message only where the turn begins there, or comes there right from a node that
was passed (`Turn.pending_of_getElem?`).

Without a message a question or a branch prompts for one and waits, which is the end of the turn
(`Turn.Stop.IsReal.prompts`). `Begun.message_taken` says both of every turn that a desk begins.
-/

namespace Parley

open Template

/-- What is asked at the node can be answered by a message. -/
def Node.Asks (n : Node) : Prop := (∃ q, n.body = .question q) ∨ ∃ b, n.body = .branch b

namespace Turn

variable {σ : Type} {answer : (q : Outside.Ask) → σ → Except Failure q.Answer × σ} {s : σ}
  {t u : Turn} {n m : Node} {left : Nat} {resuming : Bool}

/-- Where a step goes on to a node, this message is in hand. -/
def Hands (message : Option String) : Onto → Prop
  | .ended _ => True
  | .node u _ => u.pending = message

theorem take_hands (t : Turn) (step : Step) :
    Hands (if step.onward.keepsInput then t.pending else none) (t.take step) := by
  unfold take
  cases step.onward with
  | wait | park | finish => exact trivial
  | next id keeps =>
    cases keeps <;> simp only [Onward.keepsInput, if_true, if_false, Bool.false_eq_true] <;> split
    all_goals first | rfl | exact trivial

/-- A node that is visited takes the message, and one that is passed hands it on. -/
theorem step_hands (t : Turn) (n : Node) (resuming : Bool) :
    (t.step n resuming).Yields
      (Program.Either (Hands (if visits n resuming then none else t.pending)) fun _ => True) := by
  refine yields_step (fun hpassed => ?_) (fun hvisited => ?_) fun _ => trivial
  · rw [hpassed]
    have htaken := take_hands (t.standAt n.id) ((t.standAt n.id).pass n)
    have hends : (t.standAt n.id).pass n = { onward := .finish } ∨
        ((t.standAt n.id).pass n).onward.keepsInput = true := by
      unfold pass
      split
      · exact .inr rfl
      · exact .inl rfl
    rcases hends with hends | hkeeps
    · rw [hends]
      exact trivial
    · rwa [hkeeps] at htaken
  · rw [hvisited]
    refine (visit_spends (t.standAt n.id) n).mono ?_
    rintro (e | ⟨v, step⟩) hkeeps
    · exact trivial
    · have htaken := take_hands (v.record n .executed none step.text) step
      rwa [show step.onward.keepsInput = false from hkeeps] at htaken

theorem Stop.pending_of_follows {x y : Stop σ} (hx : x.IsReal answer) (h : x.Follows y) :
    y.turn.pending = if x.visits then none else x.turn.pending := by
  obtain ⟨u, honto, hturn, -⟩ := h
  have hhands := hx.of_yields (step_hands ..)
  rw [honto] at hhands
  rw [hturn]
  exact hhands

/-- The message comes to a stop behind another one only where the node of that was passed. -/
theorem passed_of_pending {i : Nat} {x y : Stop σ}
    (hx : (t.stops answer left n resuming s)[i]? = some x)
    (hy : (t.stops answer left n resuming s)[i + 1]? = some y) (hpending : y.turn.pending ≠ none) :
    x.visits = false ∧ x.resuming = true ∧ y.turn.pending = x.turn.pending := by
  obtain ⟨hreal, hfollows⟩ := follows_of_getElem? hx hy
  have hhanded := Stop.pending_of_follows hreal hfollows
  have hpassed : x.visits = false := by
    by_contra hvisits
    rw [if_pos (by simpa using hvisits)] at hhanded
    exact hpending hhanded
  rw [hpassed, if_neg Bool.false_ne_true] at hhanded
  refine ⟨hpassed, ?_, hhanded⟩
  unfold Stop.visits visits at hpassed
  cases hresuming : x.resuming with
  | true => rfl
  | false =>
    rw [hresuming] at hpassed
    cases hpassed

/-- A turn that comes to a node with its message in hand begins there, or has only passed the node
at which it began. -/
theorem pending_of_getElem? {i : Nat} {x : Stop σ}
    (hx : (t.stops answer left n resuming s)[i]? = some x) (hpending : x.turn.pending ≠ none) :
    x.turn.pending = t.pending ∧ (i = 0 ∨ i = 1 ∧
      ∃ y, (t.stops answer left n resuming s)[0]? = some y ∧ y.visits = false) := by
  obtain ⟨first, hfirst, hturn, -⟩ := head?_stops answer left t n resuming s
  rw [List.head?_eq_getElem?] at hfirst
  have hbefore : ∀ j < i, ∃ y, (t.stops answer left n resuming s)[j]? = some y := fun j hj =>
    ⟨_, List.getElem?_eq_getElem (hj.trans (List.getElem?_eq_some_iff.1 hx).1)⟩
  rcases i with _ | _ | i
  · obtain rfl : first = x := Option.some.inj (hfirst.symm.trans hx)
    exact ⟨by rw [hturn], .inl rfl⟩
  · obtain ⟨hpassed, -, hsame⟩ := passed_of_pending hfirst hx hpending
    exact ⟨by rw [hsame, hturn], .inr ⟨rfl, first, hfirst, hpassed⟩⟩
  · -- The node before is entered, so it is not passed.
    obtain ⟨y, hy⟩ := hbefore (i + 1) (by omega)
    obtain ⟨z, hz⟩ := hbefore i (by omega)
    obtain ⟨-, -, -, -, hentered⟩ := follows_of_getElem? hz hy
    rw [(passed_of_pending hy hx hpending).2.1] at hentered
    cases hentered

/-! ## Prompts -/

/-- What a question or a branch says when it asks for a message. -/
def prompt? (n : Node) (vars : Fields) : Option String :=
  match n.body with
  | .question q => some (render (firstGiven [q.text, n.label, q.placeholder] usualQuestion) vars)
  | .branch b => some (render (firstGiven [b.text] usualChoice) vars)
  | _ => none

/-- At the stop a turn says what is asked there, and waits for an answer. -/
def Stop.Prompts (x : Stop σ) (u : Turn) : Prop :=
  ∃ prompt, prompt? x.node x.turn.vars = some prompt ∧ x.Waits prompt u

/-- Without a message a question or a branch prompts for one. -/
theorem visit_of_asks (hn : n.Asks) (hpending : t.pending = none) :
    ∃ prompt, prompt? n t.vars = some prompt ∧ t.visit n =
      Program.ofExcept (.ok (t.withoutInput, { onward := .wait, text := some prompt })) := by
  obtain ⟨q, hq⟩ | ⟨b, hb⟩ := hn
  · refine ⟨_, by rw [prompt?, hq], ?_⟩
    unfold visit visitQuestion
    rw [hq, hpending]
    rfl
  · refine ⟨_, by rw [prompt?, hb], ?_⟩
    unfold visit visitBranch
    rw [hb, hpending]

theorem Stop.visits_of_asks {x : Stop σ} (hn : x.node.Asks) : x.visits = true := by
  have hagain : isAskedAgain x.node = true := by
    obtain ⟨q, hq⟩ | ⟨b, hb⟩ := hn <;> simp only [isAskedAgain, *]
  simp [Stop.visits, Turn.visits, hagain]

/-- Two questions or branches of a turn that both have its message in hand are one. -/
theorem eq_of_pending {i j : Nat} {x y : Stop σ}
    (hx : (t.stops answer left n resuming s)[i]? = some x)
    (hy : (t.stops answer left n resuming s)[j]? = some y) (hn : x.node.Asks) (hm : y.node.Asks)
    (hpending : x.turn.pending ≠ none) (hpending' : y.turn.pending ≠ none) : i = j := by
  -- A question or a branch is never passed.
  have hfirst : ∀ z, (t.stops answer left n resuming s)[0]? = some z → z.node.Asks →
      ¬ ∃ y, (t.stops answer left n resuming s)[0]? = some y ∧ y.visits = false := by
    rintro z hz hasks ⟨y, hy, hpassed⟩
    obtain rfl : z = y := Option.some.inj (hz.symm.trans hy)
    rw [Stop.visits_of_asks hasks] at hpassed
    cases hpassed
  obtain ⟨-, rfl | ⟨rfl, hpassed⟩⟩ := pending_of_getElem? hx hpending <;>
    obtain ⟨-, rfl | ⟨rfl, hpassed'⟩⟩ := pending_of_getElem? hy hpending'
  · rfl
  · exact absurd hpassed' (hfirst x hx hn)
  · exact absurd hpassed (hfirst y hy hm)
  · rfl

theorem Stop.IsReal.prompts {x : Stop σ} (hx : x.IsReal answer) (hn : x.node.Asks)
    (hpending : x.turn.pending = none) : x.IsBarred answer ∨ ∃ u, x.Prompts u := by
  obtain ⟨prompt, hprompt, hvisit⟩ := visit_of_asks (t := x.turn.standAt x.node.id) hn hpending
  exact (hx.waits (Stop.visits_of_asks hn) hvisit).imp_right fun ⟨u, hu⟩ => ⟨u, prompt, hprompt, hu⟩

end Turn

namespace Desk

open Turn

variable {σ : Type} {text : Option String} {t : Turn} {n : Node} {resuming : Bool}

/-- A turn as a desk begins it: the message that it begins with, the node at which it begins, and
whether it leaves that node. -/
inductive Begun : Option String → Turn → Node → (resuming : Bool) → Prop
  | start (now : Moment) (id : String) (contact : Contact) (flowId : String) (f : Flow) (n : Node)
      (text name phone : Option String) :
      Begun none (newTurn now id contact flowId f n text name phone) n false
  | resume (now : Moment) (c : Conversation) (f : Flow) (n : Node) (text : Option String) :
      Begun text (answeredTurn now c f n text) n (!c.entersOnResume)
  | wake (now : Moment) (c : Conversation) (f : Flow) (n : Node) :
      Begun none (wokenTurn now c f n) n true

theorem Begun.pending (h : Begun text t n resuming) : t.pending = text := by
  cases h with
  | start | wake => rfl
  | resume now c f n text =>
    unfold answeredTurn
    dsimp only
    split <;> rfl

/-- The message of a turn is given to one question or branch at most: to that where the turn begins,
or to the one right behind, where the turn has only passed the node at which it began. Every other
one prompts, which is the end of the turn, unless the node cannot be entered. -/
theorem Begun.message_taken (h : Begun text t n resuming)
    (answer : (q : Outside.Ask) → σ → Except Failure q.Answer × σ) (left : Nat) (s : σ) :
    let xs := t.stops answer left n resuming s
    (∀ (i : Nat) (x : Stop σ), xs[i]? = some x → x.node.Asks → x.turn.pending ≠ none →
      x.turn.pending = text ∧ (i = 0 ∨ i = 1 ∧ ∃ y, xs[0]? = some y ∧ y.visits = false)) ∧
    (∀ (i j : Nat) (x y : Stop σ), xs[i]? = some x → xs[j]? = some y → x.node.Asks → y.node.Asks →
      x.turn.pending ≠ none → y.turn.pending ≠ none → i = j) ∧
    ∀ x ∈ xs, x.node.Asks → x.turn.pending = none → x.IsBarred answer ∨
      ∃ u, x.Prompts u ∧ ((t.advance left n resuming).run answer s).1 = .ok (.settled u) := by
  intro xs
  refine ⟨fun i x hx _ hpending => ?_, fun i j x y hx hy hn hm hpending hpending' => ?_,
    fun x hx hn hpending => ?_⟩
  · rw [← h.pending]
    exact pending_of_getElem? hx hpending
  · exact eq_of_pending hx hy hn hm hpending hpending'
  · obtain hbarred | ⟨u, prompt, hprompt, hu⟩ := (isReal_of_mem_stops hx).prompts hn hpending
    · exact .inl hbarred
    · exact .inr ⟨u, ⟨prompt, hprompt, hu⟩, hu.settles hx⟩

/-- A node that greets. -/
def hello : Node where
  id := "hello"
  body := .message { text := some "Hello", awaitInput := true }

/-- A node that asks for something, and keeps the answer under its own name. -/
def asking (name : String) : Node where
  id := name
  body := .question { text := some ("Your " ++ name ++ "?"), variable_ := some name }

/-- A flow that greets and then asks two questions. -/
def greeting : Flow where
  id := "greeting"
  nodes := [hello, asking "name", asking "age"]
  edges := [{ source := "hello", target := "name" }, { source := "name", target := "age" }]
  nodup_ids := by simp [hello, asking]

/-- The turn of a visitor who was greeted and says a name. -/
def greetedTurn : Turn :=
  answeredTurn Rehearsal.Clock.usualStart
    { id := "talk", contact := visitor, flowId := "greeting", node := "hello", awaitsInput := true
      createdAt := Rehearsal.Clock.usualStart, updatedAt := Rehearsal.Clock.usualStart }
    greeting hello (some "Ana")

/-- Surroundings that stay quiet. -/
def quiet : Stream' Around := Stream'.const (quietly none)

/-- The stops of the turn in quiet surroundings. -/
def greetedStops : List (Stop (Stream' Around)) := greetedTurn.stops heard 24 hello true quiet

/-- The greeting is passed, the name is given to the first question, and the second one prompts. -/
theorem Begun.message_taken_greeting : ∃ x y z u, greetedStops = [x, y, z] ∧
    x.node = hello ∧ x.visits = false ∧
    y.node = asking "name" ∧ y.turn.pending = some "Ana" ∧
    z.node = asking "age" ∧ z.Prompts u ∧
    ((greetedTurn.advance 24 hello true).run heard quiet).1 =
      .ok (.settled u) := by
  have hmap : (greetedStops.map fun x => (x.node, x.turn.pending, x.onto.isOk)) =
      [(hello, some "Ana", true), (asking "name", some "Ana", true),
        (asking "age", none, true)] := by decide
  obtain ⟨x, xs, hx, hfirst, hmap⟩ := List.map_eq_cons_iff.1 hmap
  obtain ⟨y, ys, rfl, hsecond, hmap⟩ := List.map_eq_cons_iff.1 hmap
  obtain ⟨z, zs, rfl, hthird, hmap⟩ := List.map_eq_cons_iff.1 hmap
  obtain rfl := List.map_eq_nil_iff.1 hmap
  simp only [Prod.mk.injEq] at hfirst hsecond hthird
  have hbegun : Begun (some "Ana") greetedTurn hello true := .resume ..
  obtain ⟨hgiven, -, hprompts⟩ := Begun.message_taken hbegun heard 24 quiet
  rw [show greetedTurn.stops heard 24 hello true quiet = [x, y, z] from hx] at hgiven hprompts
  obtain ⟨-, hplace⟩ := hgiven 1 y rfl (.inl ⟨_, by rw [hsecond.1]; rfl⟩)
    (by rw [hsecond.2.1]; exact Option.some_ne_none _)
  obtain ⟨w, hw, hpassed⟩ := (hplace.resolve_left Nat.one_ne_zero).2
  obtain rfl : x = w := Option.some.inj hw
  obtain ⟨-, f, -, hf⟩ | ⟨u, hprompt, hsettled⟩ :=
    hprompts z (by simp) (.inl ⟨_, by rw [hthird.1]; rfl⟩) hthird.2.1
  · rw [hf] at hthird
    cases hthird.2.2
  · exact ⟨x, y, z, u, hx, hfirst.1, hpassed, hsecond.1, hsecond.2.1, hthird.1, hprompt, hsettled⟩

end Desk

end Parley
