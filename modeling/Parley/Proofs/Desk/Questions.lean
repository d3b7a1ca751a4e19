import Parley.Proofs.Desk.Message
import Parley.Proofs.Turn.Variables

/-!
# Answers that a question refuses or accepts

A contact's conversation waits at a node (`Desk.Awaits`), and a message begins its next turn
(`Awaits.runs`). As long as no node has taken the message, the turn has done nothing but come to a
node (`Awaits.turn_of_pending`).

A question that refuses the message asks again, and that is the end of the turn. It is committed
whatever operation gave the message, and the conversation waits at the question for the next one
(`Awaits.refused`). A question that accepts it keeps the value before the turn comes to another node
(`Turn.Stop.IsReal.accepted`). `Awaits.question_answered` says both.
-/

namespace Parley

open Template

namespace Turn

variable {σ : Type} {answer : (q : Outside.Ask) → σ → Except Failure q.Answer × σ} {s : σ}
  {t u : Turn} {n m : Node} {left : Nat} {resuming : Bool}

/-- A step that goes on to a node has found it in the flow. -/
theorem take_node {step : Step} (h : t.take step = .node u m) :
    t.Alike u ∧ u.vars = t.vars ∧ t.flow.node? m.id = some m := by
  obtain ⟨w, halike, -, -, htaken⟩ := take_taken t step
  have hvars : (t.take step).turn.vars = t.vars := take_vars t step
  rw [h] at htaken hvars
  generalize step.onward = onward at htaken
  cases htaken with
  | next hm => exact ⟨halike, hvars, by rw [Flow.node?_id hm, ← halike.flow]; exact hm⟩

/-- Where a step goes on to a node, it has changed nothing but where the turn stands. -/
def Passes (t : Turn) (n : Node) : Onto → Prop
  | .ended _ => True
  | .node u m => (t.standAt n.id).Alike u ∧ u.vars = t.vars ∧ t.flow.node? m.id = some m

theorem step_passes (t : Turn) (hpassed : visits n resuming = false) :
    (t.step n resuming).Yields (Program.Either (t.Passes n) fun _ => True) := by
  refine yields_step (fun _ => ?_) (fun hvisited => ?_) fun _ => trivial
  · show t.Passes n _
    rcases h : (t.standAt n.id).take ((t.standAt n.id).pass n) with u | ⟨u, m⟩
    · exact trivial
    · exact take_node h
  · rw [hpassed] at hvisited
    cases hvisited

/-- A turn that still has its message is as it began, but for where it stands. -/
theorem begun_of_pending {x : Stop σ} (hx : x ∈ t.stops answer left n resuming s)
    (hpending : x.turn.pending ≠ none) (hn : t.flow.node? n.id = some n) :
    x.turn.pending = t.pending ∧ (∃ id, (t.standAt id).Alike x.turn) ∧ x.turn.vars = t.vars ∧
      t.flow.node? x.node.id = some x.node := by
  obtain ⟨i, hi⟩ := List.mem_iff_getElem?.1 hx
  obtain ⟨first, hfirst, hturn, hnode, -⟩ := head?_stops answer left t n resuming s
  rw [List.head?_eq_getElem?] at hfirst
  obtain ⟨hsame, rfl | ⟨rfl, y, hy, hpassed⟩⟩ := pending_of_getElem? hi hpending
  · obtain rfl : first = x := Option.some.inj (hfirst.symm.trans hi)
    rw [hturn, hnode]
    exact ⟨rfl, ⟨t.conversation.node, .refl t⟩, rfl, hn⟩
  · obtain rfl : first = y := Option.some.inj (hfirst.symm.trans hy)
    obtain ⟨hreal, u, honto, hnext, -⟩ := follows_of_getElem? hfirst hi
    have hpasses := hreal.of_yields (step_passes _ hpassed)
    rw [honto, hturn] at hpasses
    obtain ⟨halike, hvars, hfound⟩ := hpasses
    rw [hnext]
    exact ⟨hnext ▸ hsame, ⟨_, halike.trans (alike_record ..)⟩, hvars, hfound⟩

/-- Nothing outside is asked at a question, so the stop is barred, or its visit tells what comes of
it. -/
theorem Stop.IsReal.refused {x : Stop σ} {q : Question} {text : String} (h : x.IsReal answer)
    (hq : x.node.body = .question q) (hpending : x.turn.pending = some text)
    (hrefuses : q.Refuses text) : x.IsBarred answer ∨ ∃ said u, said ≠ "" ∧ x.Waits said u := by
  obtain ⟨said, hsaid, hvisit⟩ :=
    visitQuestion_of_refuses (t := x.turn.standAt x.node.id) x.node hpending hrefuses
  refine (h.waits (Stop.visits_of_asks (.inl ⟨q, hq⟩)) ?_).imp_right fun ⟨u, hu⟩ =>
    ⟨said, u, hsaid, hu⟩
  unfold visit
  rw [hq]
  exact congrArg pure hvisit

theorem Stop.IsReal.accepted {x : Stop σ} {q : Question} {text value : String}
    (h : x.IsReal answer) (hq : x.node.body = .question q) (hpending : x.turn.pending = some text)
    (haccepts : q.Accepts text value) : x.IsBarred answer ∨
      ∃ onto, x.onto = .ok onto ∧ onto.turn.vars = q.keep value x.turn.vars := by
  have hvisit : (x.turn.standAt x.node.id).visit x.node = Program.ofExcept
      (.ok ((x.turn.standAt x.node.id).visitQuestion x.node q)) := by
    unfold visit
    rw [hq]
    rfl
  refine (h.onto_eq (Stop.visits_of_asks (.inl ⟨q, hq⟩)) hvisit).imp_right fun honto =>
    ⟨_, honto, ?_⟩
  have hkept := visitQuestion_of_accepts (t := x.turn.standAt x.node.id) x.node hpending haccepts
  rw [take_vars, hkept]
  rfl

end Turn

namespace Desk

open Program Turn

variable {as bs : Stream' Around} {l m : Ledger} {s : Settings} {t u : Turn} {n : Node}
  {b c : Conversation} {f : Flow} {contact : Contact} {text : Option String} {r : TurnResult}

/-! ## The turn that a message begins -/

/-- The contact's conversation waits for an answer at a node. -/
structure Awaits (l : Ledger) (contact : Contact) (c : Conversation) (f : Flow) (n : Node) :
    Prop where
  active : l.active? contact.key = some c
  awaits : c.awaitsInput = true
  flow : (Dictionary.find? l.flows c.flowId).filter (Ledger.isFor contact.tenant) = some f
  node : f.node? c.node = some n

theorem Awaits.run_resumeHeld (h : Awaits l contact b f n) (s : Settings) (text : Option String)
    (as : Stream' Around) :
    (resumeHeld s contact text).run attended (as, l) =
      (runTurn s (answeredTurn (as.get 2).now b f n text) n (!b.entersOnResume) >>= fun done =>
        pure done.2).run attended (as.drop 3, l) := by
  have hfound : (some f).bind (fun f => (f.node? b.node).map (f, ·)) = some (f, n) := by
    rw [Option.bind_some, h.node, Option.map_some]
  have hactive : (l.answer as.head.now (.active contact)).1 = .ok (some b) :=
    congrArg Except.ok h.active
  have hflow : ((l.answer as.head.now (.active contact)).2.answer as.tail.head.now
      (.flow contact.tenant b.flowId)).1 = .ok (some f) := congrArg Except.ok h.flow
  unfold resumeHeld
  rw [run_store_bind_of_ok hactive]
  dsimp only
  rw [if_pos h.awaits, run_store_bind_of_ok hflow, hfound]
  rfl

/-- A message that is given to the contact's conversation is the beginning of this turn. -/
def Runs (s : Settings) (contact : Contact) (text : Option String) (as : Stream' Around)
    (l : Ledger) (t : Turn) (n : Node) (resuming : Bool) : Prop :=
  (resumeHeld s contact text).run attended (as, l) =
    (runTurn s t n resuming >>= fun done => pure done.2).run attended (as.drop 3, l)

/-- What comes of a message that is given to the contact's conversation, whichever operation does
so. -/
structure Brings (s : Settings) (contact : Contact) (text : Option String) (as : Stream' Around)
    (l : Ledger) (r : TurnResult) (m : Ledger) : Prop where
  held : ∃ bs, (resumeHeld s contact text).run attended (as, l) = (.ok r, bs, m)
  resume : ∀ a, ∃ bs, (Desk.resume s contact text).run attended (.cons a as, l) = (.ok r, bs, m)
  receive : (given text).isSome → ∀ a a' name phone, ∃ bs,
    (Desk.receive s contact text name phone).run attended (.cons a (.cons a' as), l) =
      (.ok r, bs, m)

theorem Awaits.brings (h : Awaits l contact b f n)
    (hheld : (resumeHeld s contact text).run attended (as, l) = (.ok r, bs, m))
    (hr : (r.success && r.hasResponse) = true) : Brings s contact text as l r m where
  held := ⟨bs, hheld⟩
  resume a := ⟨bs.tail, run_holding hheld⟩
  receive hgiven a a' name phone := by
    have hactive : (l.answer a'.now (.active contact)).1 = .ok (some b) :=
      congrArg Except.ok h.active
    have hresumed : (resumeAwaiting s contact text).run attended (.cons a' as, l) =
        (.ok (some r), bs, m) := by
      unfold resumeAwaiting
      rw [run_store_bind_of_ok hactive]
      rw [if_pos (by simp [h.awaits, hgiven])]
      exact run_bind_of_ok hheld
    refine ⟨bs.tail, run_holding ?_⟩
    refine (run_bind_of_ok hresumed).trans ?_
    rw [Option.filter_some, if_pos hr]
    rfl

/-- The variables of a conversation that got a message. -/
def arrival (now : Moment) (text : Option String) (vars : Fields) : Fields :=
  Dictionary.put (Dictionary.put vars "lastUserMessage" (.ofText? text)) "lastMessageAt"
    (.str now.text)

/-- The turn of an answer has the message in hand. -/
theorem answeredTurn_eq (now : Moment) (b : Conversation) (f : Flow) (n : Node)
    (text : Option String) :
    let t := answeredTurn now b f n text
    t.conversation = { b with
      vars := arrival now text b.vars, awaitsInput := false, entersOnResume := false } ∧
      t.flow = f ∧ t.version = b.version ∧ t.isNew = false ∧ t.pending = text := by
  unfold answeredTurn
  dsimp only
  split <;> exact ⟨rfl, rfl, rfl, rfl, rfl⟩

theorem Awaits.runs (h : Awaits l contact b f n) (s : Settings) (text : Option String)
    (as : Stream' Around) :
    Runs s contact text as l (answeredTurn (as.get 2).now b f n text) n (!b.entersOnResume) :=
  h.run_resumeHeld s text as

theorem hasResponse_resultOf {before : List String} {said : String}
    (htexts : t.texts = before ++ [said]) (hsaid : said ≠ "") (s : Settings) (c : Conversation) :
    (resultOf s t c).hasResponse = true := by
  have hjoined : s.separator.intercalate t.texts ≠ "" := by
    rw [htexts]
    cases before with
    | nil => simpa using hsaid
    | cons first rest =>
      rw [String.intercalate_append_of_ne_nil (by simp) (by simp), String.intercalate_singleton]
      simp [hsaid]
  have htext : t.text s.separator = some (s.separator.intercalate t.texts) := by
    unfold Turn.text
    rw [htexts]
    simp
  simp [TurnResult.hasResponse, resultOf, htext, hjoined]

/-- A turn of the contact's conversation that waits at a node is committed, and the conversation
waits there. -/
theorem Awaits.run_commit (h : Awaits l contact b f n) (hl : l.IsTidy) {vars : Fields} {k : Node}
    (hu : u.conversation = { b with
      node := k.id, vars, awaitsInput := true, entersOnResume := false })
    (hnew : u.isNew = false) (hversion : u.version = b.version) (hk : f.node? k.id = some k)
    (s : Settings) (as : Stream' Around) :
    ∃ d bs m c, (commit s u).run attended (as, l) = (.ok (resultOf s u d), bs, m) ∧
      Awaits m contact c f k ∧ c.id = b.id ∧ c.isActive = true ∧ c.entersOnResume = false ∧
      c.node = k.id ∧ c.vars = vars := by
  obtain ⟨hfound, hholds⟩ := hl.find?_of_active? h.active
  obtain ⟨hactive, hkey⟩ := Ledger.holds_iff.1 hholds
  have hb : l.find? u.conversation.id = some b := by
    rw [hu]
    exact hfound
  obtain ⟨d, bs, m, hrun⟩ := run_commit_of_found hnew hb hversion as
  obtain ⟨-, ⟨c, hlodged⟩, -⟩ := run_commit_ok hrun rfl
  obtain ⟨version, now, heq⟩ := hlodged.eq
  rw [hu] at heq
  have hcurrent : IsCurrent u l := by
    refine .inr ⟨b, ?_, by rw [hu]⟩
    rw [hu]
    exact hkey ▸ h.active
  have hcactive : c.isActive = true := by rw [heq]; exact hactive
  have hckey : c.key = contact.key := by rw [heq]; exact hkey
  refine ⟨d, bs, m, c, hrun, ⟨?_, by rw [heq], ?_, by rw [heq]; exact hk⟩, by rw [heq], hcactive,
    by rw [heq], by rw [heq], by rw [heq]⟩
  · rw [← hckey]
    exact hlodged.active hl hcurrent hcactive
  · rw [hlodged.flows, heq]
    exact h.flow

section
variable {x : Stop (Stream' Around)} {q : Question} {answer : String} {now : Moment}

/-- Where the message is still in hand, nothing has been done with the conversation but that it got
the message, and was moved to a node. -/
theorem Awaits.turn_of_pending (h : Awaits l contact b f n) {left : Nat} {resuming : Bool}
    (hx : x ∈ (answeredTurn now b f n text).stops heard left n resuming as)
    (hpending : x.turn.pending = some answer) :
    text = some answer ∧ f.node? x.node.id = some x.node ∧ (∃ id, x.turn.conversation = { b with
      node := id, vars := arrival now text b.vars, awaitsInput := false
      entersOnResume := false }) ∧
      x.turn.version = b.version ∧ x.turn.isNew = false := by
  obtain ⟨hbegan, hflow, hversion, hnew, htext⟩ := answeredTurn_eq now b f n text
  have hn : (answeredTurn now b f n text).flow.node? n.id = some n := by
    rw [hflow, Flow.node?_id h.node]
    exact h.node
  obtain ⟨hgiven, ⟨id, halike⟩, hvars, hnode⟩ :=
    begun_of_pending hx (by rw [hpending]; exact Option.some_ne_none _) hn
  refine ⟨?_, hflow ▸ hnode, ⟨id, ?_⟩, halike.version.trans hversion, halike.isNew.trans hnew⟩
  · rw [← hpending, hgiven, htext]
  · have hvars : x.turn.conversation.vars = arrival now text b.vars :=
      hvars.trans (congrArg Conversation.vars hbegan)
    have hstanding : ((answeredTurn now b f n text).standAt id).conversation = { b with
        node := id, vars := arrival now text b.vars, awaitsInput := false
        entersOnResume := false } := by
      show { (answeredTurn now b f n text).conversation with node := id } = _
      rw [hbegan]
    rw [halike.conversation, hvars, hstanding]

/-- A turn that comes to a question which refuses its message is committed, and the conversation
waits at the question. -/
theorem Awaits.refused (h : Awaits l contact b f n) (hl : l.IsTidy) (s : Settings)
    (as : Stream' Around)
    (hx : x ∈ (answeredTurn (as.get 2).now b f n text).stops heard s.further n
      (!b.entersOnResume) (as.drop 3))
    (hq : x.node.body = .question q) (hpending : x.turn.pending = some answer)
    (hopen : ¬ x.IsBarred heard) (hrefuses : q.Refuses answer) :
    (∀ u m, x.onto ≠ .ok (.node u m)) ∧ ∃ r m c, Brings s contact text as l r m ∧
      r.success = true ∧ Awaits m contact c f x.node ∧ c.id = b.id ∧ c.isActive = true ∧
      c.entersOnResume = false ∧ c.node = x.node.id ∧
      c.vars = arrival (as.get 2).now text b.vars := by
  obtain ⟨-, hnode, ⟨id, hbegan⟩, hversion, hnew⟩ := h.turn_of_pending hx hpending
  obtain ⟨said, u, hsaid, hu⟩ :=
    ((isReal_of_mem_stops hx).refused hq hpending hrefuses).resolve_left hopen
  have hconversation : u.conversation = { b with
      node := x.node.id, vars := arrival (as.get 2).now text b.vars, awaitsInput := true
      entersOnResume := false } := by
    rw [hu.conversation, hbegan]
  obtain ⟨d, bs, m, c, hcommit, hawaits, hid, hactive, hleaves, hstands, hvars⟩ :=
    h.run_commit hl hconversation (hu.isNew.trans hnew) (hu.version.trans hversion) hnode s
      (((answeredTurn (as.get 2).now b f n text).advance s.further n (!b.entersOnResume)).run heard
        (as.drop 3)).2
  have hheld : (resumeHeld s contact text).run attended (as, l) =
      (.ok (resultOf s u d), bs, m) :=
    (h.runs s text as).trans (run_bind_of_ok
      ((run_runTurn_of_settled (hu.settles hx)).trans (run_bind_of_ok hcommit)))
  have htexts : u.texts = x.turn.texts ++ [said] := by
    rw [hu.texts, List.filter_cons_of_pos (by simpa using hsaid)]
    rfl
  exact ⟨hu.ends, _, m, c, h.brings hheld (hasResponse_resultOf htexts hsaid s d), rfl, hawaits,
    hid, hactive, hleaves, hstands, hvars⟩

/-- A question that accepts its message keeps the value, and the turn comes to the next node with
it. -/
theorem Awaits.accepted (h : Awaits l contact b f n) {left : Nat} {resuming : Bool}
    {before behind : List (Stop (Stream' Around))} {value : String}
    (hsplit : (answeredTurn now b f n text).stops heard left n resuming as =
      before ++ x :: behind)
    (hq : x.node.body = .question q) (hpending : x.turn.pending = some answer)
    (hopen : ¬ x.IsBarred heard) (haccepts : q.Accepts answer value) :
    ∃ onto, x.onto = .ok onto ∧ onto.turn.vars = q.keep value (arrival now text b.vars) ∧
      ∀ y ∈ behind.head?, y.turn.vars = q.keep value (arrival now text b.vars) := by
  have hx : x ∈ (answeredTurn now b f n text).stops heard left n resuming as := by
    rw [hsplit]
    exact List.mem_append_right _ List.mem_cons_self
  obtain ⟨-, -, ⟨id, hbegan⟩, -⟩ := h.turn_of_pending hx hpending
  obtain ⟨onto, honto, hkept⟩ :=
    ((isReal_of_mem_stops hx).accepted hq hpending haccepts).resolve_left hopen
  have hvars : x.turn.vars = arrival now text b.vars := congrArg Conversation.vars hbegan
  rw [hvars] at hkept
  refine ⟨onto, honto, hkept, fun y hy => ?_⟩
  have hchain := isChain_stops heard left (answeredTurn now b f n text) n resuming as
  rw [hsplit] at hchain
  obtain ⟨u, hu, hturn, -⟩ := (List.isChain_cons.1 hchain.right_of_append).1 y hy
  obtain rfl : onto = .node u y.node := Except.ok.inj (honto.symm.trans hu)
  rw [hturn]
  exact hkept

end

/-- A node that asks for a number, and keeps it under a name. -/
def count (name : String) : Node where
  id := "count"
  body := .question { text := some "How many?", variable_ := some name, format := "number" }

end Desk

end Parley
