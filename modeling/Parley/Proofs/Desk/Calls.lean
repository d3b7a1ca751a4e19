import Parley.Proofs.Desk.Attended
import Parley.Proofs.Turn.Twins

/-!
# What the answers of called systems change

The systems that a flow calls may fail, refuse or answer with anything. Of two turns that begin with
the same ledger, in surroundings that answer alike but for such calls, and that both succeed, the
same nodes are told to have been executed; the conversation is left at the same node, over or not,
waiting or not, to enter its node or not; and its variables differ at most where a call that was
executed keeps its answer (`ComesTo.calls_apart`).

`ComesTo` is what a start, a resumption or a continuation comes to when nobody interrupts it.
-/

namespace Parley

/-- Two surroundings answer alike, calls apart. -/
structure Around.LikeButForCalls (a b : Around) : Prop where
  outside : ∀ q, (∀ r, q ≠ .call r) → a.outside q = b.outside q
  now : a.now = b.now
  freshId : a.freshId = b.freshId
  delivery : a.delivery = b.delivery

namespace Desk

open Program

/-- Two rows of surroundings answer alike at each question, calls apart. -/
def LikeButForCalls (as bs : Stream' Around) : Prop :=
  ∀ i, (as.get i).LikeButForCalls (bs.get i)

variable {as bs cs : Stream' Around} {l m m' : Ledger} {s : Settings} {r r' : TurnResult} {t : Turn}
  {n : Node} {e : Errand}

theorem callsApart_heard : Outside.CallsApart heard LikeButForCalls where
  same q _ _ h hq := ⟨(h 0).outside q hq, fun i => h (i + 1)⟩
  calls _ _ _ _ h i := h (i + 1)

/-- How two ledgers keep a conversation whose turns have met with different answers to their calls:
alike but for the variables, and these alike but where an executed call keeps its answer. -/
structure KeptAlike (f : Flow) (l m m' : Ledger) (id : String) (c c' : Conversation) : Prop where
  found : m.find? id = some c
  found' : m'.find? id = some c'
  node : c'.node = c.node
  isActive : c'.isActive = c.isActive
  awaitsInput : c'.awaitsInput = c.awaitsInput
  entersOnResume : c'.entersOnResume = c.entersOnResume
  executed : nodesOf .executed (l.toldSince m' id) = nodesOf .executed (l.toldSince m id)
  vars : ∀ name, c'.valueOf? name ≠ c.valueOf? name → ∃ n ∈ f.nodes,
    n.id ∈ nodesOf .executed (l.toldSince m id) ∧ n.KeepsAnswerAs name

/-- The same turn that succeeds in two surroundings which answer alike but for calls. -/
theorem Succeeds.keptAlike {resuming : Bool} (hlike : LikeButForCalls as bs) (ht : IsFresh t n)
    (h : Succeeds s t n resuming as l r m) (h' : Succeeds s t n resuming bs l r' m') :
    r.conversation = some t.conversation.id ∧ r'.conversation = some t.conversation.id ∧
    ∃ c c', c.flowId = t.conversation.flowId ∧
      KeptAlike t.flow l m m' t.conversation.id c c' := by
  obtain ⟨v, hv, hsame, hcommitted, htold⟩ := h.settled ht
  obtain ⟨w, hw, hsame', hcommitted', htold'⟩ := h'.settled ht
  have htwin : v.Twin v.HasCalled w :=
    Turn.advance_related callsApart_heard s.further ⟨.refl t, rfl, rfl, fun _ _ => rfl⟩
      (fun _ => rfl) ht.mem resuming hlike hv hw
  obtain ⟨c, hlodged⟩ := hcommitted.lodged
  obtain ⟨c', hlodged'⟩ := hcommitted'.lodged
  obtain ⟨version, now, hc⟩ := hlodged.eq
  obtain ⟨version', now', hc'⟩ := hlodged'.eq
  have hconversation := htwin.alike.conversation
  refine ⟨by rw [hcommitted.conversation, hsame.id], by rw [hcommitted'.conversation, hsame'.id],
    c, c', by rw [hc]; exact hsame.flowId, ?_⟩
  refine ⟨hsame.id ▸ hlodged.found, hsame'.id ▸ hlodged'.found, ?_, ?_, ?_, ?_, ?_,
    fun name hname => ?_⟩
  · rw [hc, hc', hconversation]
  · rw [hc, hc', hconversation]
  · rw [hc, hc', hconversation]
  · rw [hc, hc', hconversation]
  · rw [htold, htold', htwin.executed]
  · by_contra hnone
    refine hname ?_
    rw [hc, hc']
    refine htwin.vars name fun hcalled => hnone ?_
    rw [htold, ← hsame.flow]
    exact hcalled

/-! ## Turns of any kind -/

/-- What is left of the ledger when nobody interrupts an errand. -/
def Errand.leaves (s : Settings) (e : Errand) (as : Stream' Around) (l : Ledger) : Ledger :=
  ((e.work s).run attended (as, l)).2.2

/-- The turn to which a start, a resumption or a continuation comes when nobody interrupts it. What
a continuation says is delivered behind that, whatever becomes of it. -/
inductive ComesTo (s : Settings) (as : Stream' Around) (l : Ledger) : Errand → TurnResult → Prop
  | start {contact : Contact} {flowId : String} {text name phone : Option String} {r : TurnResult}
      {x : Stream' Around × Ledger}
      (run : (start s contact flowId text name phone).run attended (as, l) = (.ok r, x)) :
      ComesTo s as l (.start contact flowId text name phone) r
  | resume {contact : Contact} {text : Option String} {r : TurnResult}
      {x : Stream' Around × Ledger}
      (run : (resume s contact text).run attended (as, l) = (.ok r, x)) :
      ComesTo s as l (.resume contact text) r
  | wake {w : Wake} {c : Conversation} {r : TurnResult} {x : Stream' Around × Ledger}
      (run : (holding w.contact.key (continueHeld s w)).run attended (as, l) =
        (.ok (some (c, r)), x)) : ComesTo s as l (.wake w) r

theorem leaves_start {contact : Contact} {flowId : String} {text name phone : Option String}
    (run : (start s contact flowId text name phone).run attended (as, l) = (.ok r, bs, m)) :
    (Errand.start contact flowId text name phone).leaves s as l = m := by
  show (((start s contact flowId text name phone).bind _).run attended (as, l)).2.2 = m
  rw [run_bind, run]
  rfl

theorem leaves_resume {contact : Contact} {text : Option String}
    (run : (resume s contact text).run attended (as, l) = (.ok r, bs, m)) :
    (Errand.resume contact text).leaves s as l = m := by
  show (((resume s contact text).bind _).run attended (as, l)).2.2 = m
  rw [run_bind, run]
  rfl

/-- The delivery of what a continuation says does nothing to the ledger. -/
theorem leaves_wake {w : Wake} {c : Conversation}
    (run : (holding w.contact.key (continueHeld s w)).run attended (as, l) =
      (.ok (some (c, r)), bs, m)) : (Errand.wake w).leaves s as l = m := by
  have hdelivered : ∃ result cs, (if s.delivers then do
      let answer ← ask (.deliver c r)
      ofExcept answer
      pure (some r)
    else pure (some r) : Work (Option TurnResult)).run attended (bs, m) = (result, cs, m) := by
    split
    · rw [run_ask_bind]
      show ∃ result cs, ((ofExcept bs.head.delivery : Work Unit).bind _).run attended
        (bs.tail, m) = (result, cs, m)
      cases bs.head.delivery <;> exact ⟨_, _, rfl⟩
    · exact ⟨_, _, rfl⟩
  obtain ⟨result, cs, hresult⟩ := hdelivered
  show ((((holding w.contact.key (continueHeld s w)).bind _).bind _).run attended (as, l)).2.2 = m
  rw [run_bind, run_bind, run]
  dsimp only
  rw [hresult]
  cases result <;> rfl

/-- Where the surroundings differ in the answers to calls alone, it is the same turn that begins. -/
theorem ComesTo.same_turn (hlike : LikeButForCalls as bs) (h : ComesTo s as l e r)
    (h' : ComesTo s bs l e r') (hr : r.success = true) (hr' : r'.success = true) :
    ∃ t n resuming, IsFresh t n ∧
      Dictionary.find? l.flows t.conversation.flowId = some t.flow ∧
      Succeeds s t n resuming (as.drop 4) l r (e.leaves s as l) ∧
      Succeeds s t n resuming (bs.drop 4) l r' (e.leaves s bs l) := by
  cases h with
  | start run =>
    cases h' with
    | start run' =>
      obtain ⟨f, n, hf, hn, hsucceeds⟩ := start_ok run hr
      obtain ⟨f', n', hf', hn', hsucceeds'⟩ := start_ok run' hr'
      obtain rfl : f = f' := Option.some.inj (hf.symm.trans hf')
      obtain rfl : n = n' := Option.some.inj (hn.symm.trans hn')
      rw [← (hlike 2).now, ← (hlike 3).freshId] at hsucceeds'
      rw [leaves_start run, leaves_start run']
      exact ⟨_, n, false, isFresh_newTurn hn .., hf, hsucceeds, hsucceeds'⟩
  | resume run =>
    cases h' with
    | resume run' =>
      obtain ⟨c, f, n, hc, -, hf, hn, hsucceeds⟩ := resume_ok run hr
      obtain ⟨c', f', n', hc', -, hf', hn', hsucceeds'⟩ := resume_ok run' hr'
      obtain rfl : c = c' := Option.some.inj (hc.symm.trans hc')
      obtain rfl : f = f' := Option.some.inj (hf.symm.trans hf')
      obtain rfl : n = n' := Option.some.inj (hn.symm.trans hn')
      have hactive : c.isActive = true := (Ledger.holds_iff.1 (List.find?_some hc)).1
      rw [← (hlike 3).now] at hsucceeds'
      rw [leaves_resume run, leaves_resume run']
      refine ⟨_, n, _, isFresh_answeredTurn hactive hn .., ?_, hsucceeds, hsucceeds'⟩
      obtain ⟨-, -, hflowId, hflow⟩ := answeredTurn_belongs (as.get 3).now c f n _
      rw [hflowId, hflow]
      exact hf
  | wake run =>
    cases h' with
    | wake run' =>
      obtain ⟨c, f, n, hc, hawaited, hf, hn, hsucceeds⟩ := continue_ok run hr
      obtain ⟨c', f', n', hc', -, hf', hn', hsucceeds'⟩ := continue_ok run' hr'
      obtain rfl : c = c' := Option.some.inj (hc.symm.trans hc')
      obtain rfl : f = f' := Option.some.inj (hf.symm.trans hf')
      obtain rfl : n = n' := Option.some.inj (hn.symm.trans hn')
      simp only [isAwaited, Bool.and_eq_true, beq_iff_eq] at hawaited
      obtain ⟨⟨⟨hactive, hflow⟩, -⟩, -⟩ := hawaited
      rw [← (hlike 3).now] at hsucceeds'
      rw [leaves_wake run, leaves_wake run']
      exact ⟨_, n, true, isFresh_wokenTurn hactive (Flow.node?_mem hn) _, hflow ▸ hf, hsucceeds,
        hsucceeds'⟩

/-- Of a turn that succeeds whatever the systems answer that it calls, the answers show in variables
alone, and there only where an executed call keeps its answer: the same conversation is left at the
same node, over or not, waiting or not, and to enter its node or not, and the same nodes were
executed. -/
theorem ComesTo.calls_apart {s : Settings} {as bs : Stream' Around} {l : Ledger} {e : Errand}
    {r r' : TurnResult} (hlike : LikeButForCalls as bs) (h : ComesTo s as l e r)
    (h' : ComesTo s bs l e r') (hr : r.success = true) (hr' : r'.success = true) :
    ∃ id f c c', r.conversation = some id ∧ r'.conversation = some id ∧
      Dictionary.find? l.flows c.flowId = some f ∧
      KeptAlike f l (e.leaves s as l) (e.leaves s bs l) id c c' := by
  obtain ⟨t, n, resuming, hfresh, hflow, hsucceeds, hsucceeds'⟩ := h.same_turn hlike h' hr hr'
  obtain ⟨hid, hid', c, c', hflowId, hkept⟩ :=
    hsucceeds.keptAlike (fun i => hlike (i + 4)) hfresh hsucceeds'
  exact ⟨_, t.flow, c, c', hid, hid', hflowId ▸ hflow, hkept⟩

/-! ## A flow that calls -/

/-- A flow that calls another system, and keeps the answer. -/
def calling : Flow where
  id := "calling"
  nodes := [
    { id := "start", body := .start },
    { id := "call", body := .call { url := "hook", keepsAnswer := true } },
    { id := "end", body := .ending none }]
  edges := [
    { source := "start", target := "call" },
    { source := "call", target := "end" }]
  nodup_ids := by simp

theorem isUsable_calling : calling.isUsable = true := by
  have hnodes : calling.nodes.flatMap calling.nodeProblems = [] := by decide
  simp only [Flow.isUsable, Flow.errors, Flow.problems, hnodes]
  cbv

/-- Surroundings in which every node can be entered, and calls are answered as they are. -/
def answering (answer : Except Failure CallAnswer) : Around where
  outside
    | .enter _ => .ok ()
    | .call _ => answer
    | _ => .error (.raised "nobody answers")
  now := Rehearsal.Clock.usualStart
  freshId := "talk"

/-- A desk with the flow that calls. -/
def callingLedger : Ledger := { flows := [("calling", calling)] }

/-- The first turn of the visitor, whose call is answered in one way. -/
def callingVisit (answer : Except Failure CallAnswer) :
    Except Failure TurnResult × Stream' Around × Ledger :=
  ((firstTurn {} visitor "calling" calling
    { id := "start", body := .start } none none none).attempt >>= fun result => do
      ask (.release visitor.key)
      ofExcept result).run attended (Stream'.const (answering answer), callingLedger)

theorem run_callingVisit (answer : Except Failure CallAnswer) :
    (start {} visitor "calling" none none none).run attended
      (Stream'.const (answering answer), callingLedger) = callingVisit answer :=
  run_start_of_usable (g := calling) rfl rfl rfl rfl isUsable_calling _ _ _ _

/-- The visitor's call fails, or is answered: the answer is kept, and nothing else is different. -/
theorem ComesTo.calls_apart_calling :
    let as := Stream'.const (answering (.error (.raised "nobody answers")))
    let bs := Stream'.const (answering (.ok { success := true, body := .str "yes" }))
    let e : Errand := .start visitor "calling" none none none
    ∃ r r', LikeButForCalls as bs ∧ ComesTo {} as callingLedger e r ∧
      ComesTo {} bs callingLedger e r' ∧ r.success = true ∧ r'.success = true ∧
      ∃ id f c c', r.conversation = some id ∧ r'.conversation = some id ∧
        Dictionary.find? callingLedger.flows c.flowId = some f ∧
        KeptAlike f callingLedger (e.leaves {} as callingLedger) (e.leaves {} bs callingLedger) id
          c c' ∧
        c.valueOf? "webhook_response" = none ∧
        c'.valueOf? "webhook_response" = some (.str "yes") := by
  intro as bs e
  have hlike : LikeButForCalls as bs := fun i => by
    refine ⟨fun q hq => ?_, rfl, rfl, rfl⟩
    cases q with
    | call request => exact absurd rfl (hq request)
    | _ => rfl
  have hfailing : (callingVisit (.error (.raised "nobody answers"))).1.toOption.any
      (fun r => r.success && r.conversation == some "talk") = true := by decide +kernel
  have hanswered : (callingVisit (.ok { success := true, body := .str "yes" })).1.toOption.any
      (·.success) = true := by decide +kernel
  obtain ⟨r, hrun, hr⟩ := eq_ok_of_any hfailing
  obtain ⟨r', hrun', hr'⟩ := eq_ok_of_any hanswered
  simp only [Bool.and_eq_true, beq_iff_eq] at hr
  have hstart := (run_callingVisit _).trans hrun
  have hstart' := (run_callingVisit _).trans hrun'
  obtain ⟨id, f, c, c', hid, hid', hf, hkept⟩ :=
    calls_apart hlike (.start hstart) (.start hstart') hr.1 hr'
  obtain rfl : "talk" = id := Option.some.inj (hr.2.symm.trans hid)
  have hfound := hkept.found
  have hfound' := hkept.found'
  rw [leaves_start hstart] at hfound
  rw [leaves_start hstart'] at hfound'
  have hnone : ((callingVisit (.error (.raised "nobody answers"))).2.2.find? "talk").map
      (·.valueOf? "webhook_response") = some none := by decide +kernel
  have hkeeps : ((callingVisit (.ok { success := true, body := .str "yes" })).2.2.find?
      "talk").map (·.valueOf? "webhook_response") = some (some (.str "yes")) := by decide +kernel
  rw [hfound] at hnone
  rw [hfound'] at hkeeps
  exact ⟨r, r', hlike, .start hstart, .start hstart', hr.1, hr', "talk", f, c, c', hid, hid', hf,
    hkept, Option.some.inj hnone, Option.some.inj hkeeps⟩

end Desk

end Parley
