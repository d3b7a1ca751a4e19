import Parley.Proofs.Desk.Attended
import Parley.Proofs.Turn.Ways

/-!
# Turns that are cut short

A turn visits a limited number of nodes. `Session` is what comes of a flow that is started for a
contact when every turn that was cut short is resumed, with any message, until a turn ends for
another reason. No turn of it fails, and none is cut short before a question or a branch, which
would take the message.

However many nodes a turn may visit, the nodes that are executed are those of the way from the start
of the flow (`Session.along`). So two sessions of a flow under different limits execute the same
nodes, as far as both have come (`Session.bounds_agree`): the limit shows in where the turns end,
not in what the flow does. Every turn of a session executes a node at least, and no more than its
limit.
-/

namespace Parley

open Program

namespace Flow

variable {f : Flow} {n m : Node} {k : Nat}

theorem node?_of_behind? (h : f.behind? (k + 1) n = some m) : f.node? m.id = some m := by
  rw [behind?_add] at h
  obtain ⟨p, -, hm⟩ := Option.bind_eq_some_iff.1 h
  obtain ⟨q, hq, hqm⟩ := Option.bind_eq_some_iff.1 hm
  obtain rfl : q = m := Option.some.inj hqm
  exact node?_of_onward? hq

end Flow

namespace Desk

variable {as bs : Stream' Around} {l m : Ledger} {s : Settings} {r : TurnResult} {t : Turn}
  {n : Node}

/-- A turn may enter a node, and has no message that the node would take. -/
structure Enters (t : Turn) (n : Node) : Prop extends IsFresh t n where
  idle : t.IsIdleAt n
  clear : t.conversation.entersOnResume = false

/-- A conversation is cut short before a node, or its last turn has ended for another reason. -/
def LeftBefore (c : Conversation) (l : Ledger) : Option Node → Prop
  | some n => c.entersOnResume = true ∧ c.node = n.id ∧ l.active? c.key = some c
  | none => c.entersOnResume = false

/-- A turn that enters a node and succeeds executes the nodes of the way from there, and leaves its
conversation before the node behind them. -/
theorem Succeeds.along (h : Succeeds s t n false as l r m) (ht : Enters t n) (htidy : l.IsTidy)
    (hcurrent : IsCurrent t l) :
    r.conversation = some t.conversation.id ∧
    nodesOf .executed (l.toldSince m t.conversation.id) = t.flow.ways (s.further + 1) n ∧
    ∃ c, m.find? t.conversation.id = some c ∧ c.contact = t.conversation.contact ∧
      c.flowId = t.conversation.flowId ∧
      LeftBefore c m (t.flow.behind? (s.further + 1) n) := by
  obtain ⟨u, hrun, hsame, hcommitted, htold⟩ := h.settled ht.toIsFresh
  obtain ⟨-, hrests, -⟩ : t.Settled n (.settled u) := by
    have := (Turn.advance_yields s.further ht.isOpen n false).run heard as
    rwa [hrun] at this
  obtain ⟨hexecuted, hstands⟩ : t.Wends s.further n (.settled u) := by
    have := (Turn.advance_ways s.further ht.idle ht.clear).run heard as
    rwa [hrun] at this
  obtain ⟨c, hlodged⟩ := hcommitted.lodged
  obtain ⟨version, now, heq⟩ := hlodged.eq
  refine ⟨?_, ?_, c, ?_, ?_, ?_, ?_⟩
  · rw [hcommitted.conversation, hsame.id]
  · rw [htold, hexecuted, ht.fresh, List.nil_append]
  · rw [← hsame.id]
    exact hlodged.found
  · rw [heq]
    exact hsame.contact
  · rw [heq]
    exact hsame.flowId
  · cases hbehind : t.flow.behind? (s.further + 1) n with
    | none =>
      rw [hbehind] at hstands
      rw [heq]
      exact hstands
    | some p =>
      rw [hbehind] at hstands
      obtain ⟨henters, hawaits, hnode⟩ := hstands
      have hactive : u.conversation.isActive = true := by
        by_contra hover
        have := hrests.ended (by simpa using hover)
        rw [hawaits] at this
        cases this
      have hcurrent : IsCurrent u l := by
        unfold IsCurrent Conversation.key
        rw [hsame.isNew, hsame.contact, hsame.id]
        exact hcurrent
      refine ⟨by rw [heq]; exact henters, by rw [heq]; exact hnode, ?_⟩
      exact hlodged.active htidy hcurrent (by rw [heq]; exact hactive)

theorem Succeeds.keeps (h : Succeeds s t n false as l r m) (htidy : l.IsTidy) :
    m.IsTidy ∧ m.flows = l.flows := by
  obtain ⟨u, -, hcommitted⟩ := h
  obtain ⟨c, hlodged⟩ := hcommitted.lodged
  exact ⟨hlodged.tidy htidy, hlodged.flows⟩

/-- The turn of a conversation that was cut short before a node. -/
theorem enters_answeredTurn {c : Conversation} {f : Flow} (hactive : c.isActive = true)
    (hcut : c.entersOnResume = true) (hn : f.node? c.node = some n)
    (hidle : n.kind ≠ .input ∧ n.kind ≠ .condition) (now : Moment) (text : Option String) :
    Enters (answeredTurn now c f n text) n where
  toIsFresh := isFresh_answeredTurn hactive hn now text
  idle := Or.inr hidle
  clear := by
    unfold answeredTurn
    rw [if_pos hcut]
    rfl

/-! ## Sessions -/

/-- What the turns of a flow have executed that was started for a contact, where every turn that was
cut short was resumed: the id of the conversation, and the ledger after the last turn. -/
inductive Session (s : Settings) (f : Flow) (contact : Contact) (id : String) :
    Ledger → List (List String) → Prop
  /-- The flow is started. -/
  | start {l m : Ledger} {r : TurnResult} {flowId : String} {text name phone : Option String}
      {as bs : Stream' Around} (tidy : l.IsTidy) (stored : Dictionary.find? l.flows flowId = some f)
      (run : (start s contact flowId text name phone).run attended (as, l) = (.ok r, bs, m))
      (success : r.success = true) (conversation : r.conversation = some id) :
      Session s f contact id m [nodesOf .executed (l.toldSince m id)]
  /-- A turn that was cut short, though not before a question or a branch, is resumed. -/
  | resume {l m : Ledger} {r : TurnResult} {c : Conversation} {text : Option String}
      {as bs : Stream' Around} {turns : List (List String)}
      (before : Session s f contact id l turns) (found : l.find? id = some c)
      (cut : c.entersOnResume = true)
      (idle : ∀ n, f.node? c.node = some n → n.kind ≠ .input ∧ n.kind ≠ .condition)
      (run : (resume s contact text).run attended (as, l) = (.ok r, bs, m))
      (success : r.success = true) :
      Session s f contact id m (turns ++ [nodesOf .executed (l.toldSince m id)])

/-- How a session stands: so many nodes of the way from the first one were executed, and the
conversation was left before the node behind them. -/
structure Stands (f : Flow) (contact : Contact) (id : String) (m : Ledger) (first : Node)
    (executed : List String) (k : Nat) : Prop where
  way : executed = f.ways k first
  tidy : m.IsTidy
  left : ∃ c, m.find? id = some c ∧ c.contact = contact ∧
    Dictionary.find? m.flows c.flowId = some f ∧ LeftBefore c m (f.behind? k first)

variable {f : Flow} {contact : Contact} {id : String} {turns : List (List String)} {first : Node}
  {executed : List String} {k : Nat} {c : Conversation}

theorem stands_of_start {flowId : String} {text name phone : Option String} (tidy : l.IsTidy)
    (stored : Dictionary.find? l.flows flowId = some f)
    (run : (start s contact flowId text name phone).run attended (as, l) = (.ok r, bs, m))
    (success : r.success = true) (conversation : r.conversation = some id) :
    ∃ first, f.start? = some first ∧
      nodesOf .executed (l.toldSince m id) = f.ways (s.further + 1) first ∧
      Stands f contact id m first (nodesOf .executed (l.toldSince m id)) (s.further + 1) := by
  obtain ⟨g, n, hg, hn, hsucceeds⟩ := start_ok run success
  obtain rfl : g = f := Option.some.inj (hg.symm.trans stored)
  obtain ⟨hid, hran, c, hc, hcontact, hflowId, hleft⟩ :=
    hsucceeds.along ⟨isFresh_newTurn hn .., Or.inl rfl, rfl⟩ tidy (Or.inl rfl)
  obtain ⟨htidy, hflows⟩ := hsucceeds.keeps tidy
  rw [← Option.some.inj (conversation.symm.trans hid)] at hran hc
  refine ⟨n, hn, hran, hran, htidy, c, hc, hcontact, ?_, hleft⟩
  rw [hflows, hflowId]
  exact stored

/-- A conversation that was cut short is the active one, before the node behind the way so far. -/
theorem Stands.cut_before (h : Stands f contact id l first executed k)
    (found : l.find? id = some c) (cut : c.entersOnResume = true) :
    ∃ n, f.behind? k first = some n ∧ c.node = n.id ∧ l.active? contact.key = some c ∧
      c.contact = contact ∧ Dictionary.find? l.flows c.flowId = some f := by
  obtain ⟨c', hc', hcontact, hstored, hleft⟩ := h.left
  obtain rfl : c' = c := Option.some.inj (hc'.symm.trans found)
  cases hbehind : f.behind? k first with
  | none =>
    rw [hbehind] at hleft
    rw [show c'.entersOnResume = false from hleft] at cut
    cases cut
  | some n =>
    rw [hbehind] at hleft
    obtain ⟨-, hnode, hactive⟩ := hleft
    rw [Conversation.key, hcontact] at hactive
    exact ⟨n, rfl, hnode, hactive, hcontact, hstored⟩

/-- A turn that resumes a conversation goes on where that was cut short. -/
theorem Stands.resumed {text : Option String} (h : Stands f contact id l first executed (k + 1))
    (found : l.find? id = some c) (cut : c.entersOnResume = true)
    (idle : ∀ n, f.node? c.node = some n → n.kind ≠ .input ∧ n.kind ≠ .condition)
    (run : (resume s contact text).run attended (as, l) = (.ok r, bs, m))
    (success : r.success = true) :
    ∃ n, nodesOf .executed (l.toldSince m id) = f.ways (s.further + 1) n ∧
      Stands f contact id m first (executed ++ nodesOf .executed (l.toldSince m id))
        (k + 1 + (s.further + 1)) := by
  obtain ⟨p, hbehind, hnode, hactive, hcontact, hstored⟩ := h.cut_before found cut
  obtain ⟨d, g, n, hd, -, hg, hn, hsucceeds⟩ := resume_ok run success
  obtain rfl : c = d := Option.some.inj (hactive.symm.trans hd)
  obtain rfl : g = f := Option.some.inj (hg.symm.trans hstored)
  obtain rfl : n = p := by
    rw [hnode, Flow.node?_of_behind? hbehind] at hn
    exact (Option.some.inj hn).symm
  obtain ⟨hid, htcontact, htflowId, hflow⟩ := answeredTurn_belongs (as.get 3).now c g n text
  have hopen : c.isActive = true := (Ledger.holds_iff.1 (List.find?_some hd)).1
  have hcurrent : IsCurrent (answeredTurn (as.get 3).now c g n text) l := by
    refine Or.inr ⟨c, ?_, hid.symm⟩
    rw [Conversation.key, htcontact, hcontact]
    exact hactive
  rw [cut] at hsucceeds
  obtain ⟨-, hran, e, he, hecontact, heflowId, heleft⟩ := hsucceeds.along
    (enters_answeredTurn hopen cut hn (idle n hn) ..) h.tidy hcurrent
  obtain ⟨htidy, hflows⟩ := hsucceeds.keeps h.tidy
  rw [hid, h.tidy.id_of_find? found] at hran he
  rw [hflow] at hran heleft
  refine ⟨n, hran, ?_, htidy, e, he, ?_, ?_, ?_⟩
  · rw [h.way, hran, Flow.ways_add_of_behind? hbehind]
  · rw [hecontact, htcontact, hcontact]
  · rw [hflows, heflowId, htflowId]
    exact hstored
  · rw [Flow.behind?_add_of_behind? hbehind]
    exact heleft

/-- However many nodes its turns may visit, a session goes along the way from the start. -/
theorem Session.along (h : Session s f contact id m turns) :
    ∃ first k, f.start? = some first ∧ Stands f contact id m first turns.flatten (k + 1) ∧
      ∀ ran ∈ turns, 1 ≤ ran.length ∧ ran.length ≤ s.further + 1 := by
  have hbounds : ∀ n, 1 ≤ (f.ways (s.further + 1) n).length ∧
      (f.ways (s.further + 1) n).length ≤ s.further + 1 := fun n =>
    ⟨Flow.length_ways_succ_pos .., Flow.length_ways_le ..⟩
  induction h with
  | start tidy stored run success conversation =>
    obtain ⟨first, hfirst, hran, hstands⟩ := stands_of_start tidy stored run success conversation
    refine ⟨first, s.further, hfirst, ?_, fun ran hmem => ?_⟩
    · rw [List.flatten_singleton]
      exact hstands
    · rw [List.mem_singleton.1 hmem, hran]
      exact hbounds first
  | resume before found cut idle run success ih =>
    obtain ⟨first, k, hfirst, hstands, hbefore⟩ := ih
    obtain ⟨n, hran, hstands⟩ := hstands.resumed found cut idle run success
    refine ⟨first, k + 1 + s.further, hfirst, ?_, fun ran hmem => ?_⟩
    · rw [List.flatten_append, List.flatten_singleton]
      exact hstands
    · rcases List.mem_append.1 hmem with hmem | hmem
      · exact hbefore ran hmem
      · rw [List.mem_singleton.1 hmem, hran]
        exact hbounds n

/-- The last turn of a conversation was cut short. -/
def IsCutShort (id : String) (l : Ledger) : Prop :=
  ∃ c, l.find? id = some c ∧ c.entersOnResume = true

/-- The last turn of a conversation came to its end. -/
def HasEnded (id : String) (l : Ledger) : Prop :=
  ∃ c, l.find? id = some c ∧ c.entersOnResume = false

theorem Stands.behind?_of_hasEnded (h : Stands f contact id m first executed k)
    (hended : HasEnded id m) : f.behind? k first = none := by
  obtain ⟨c, hc, -, -, hleft⟩ := h.left
  obtain ⟨d, hd, hended⟩ := hended
  obtain rfl : c = d := Option.some.inj (hc.symm.trans hd)
  cases hbehind : f.behind? k first with
  | none => rfl
  | some n =>
    rw [hbehind] at hleft
    rw [hleft.1] at hended
    cases hended

variable {contact' : Contact} {id' : String} {m' : Ledger} {executed' : List String} {k' : Nat}

/-- Of two sessions that go the same way, neither strays from what the other has executed. -/
theorem Stands.prefix_or_prefix (h : Stands f contact id m first executed k)
    (h' : Stands f contact' id' m' first executed' k') :
    executed <+: executed' ∨ executed' <+: executed := by
  rw [h.way, h'.way]
  exact (Nat.le_total k k').imp (f.ways_prefix first) (f.ways_prefix first)

/-- A session that was cut short has executed a part of what one has that came to its end. -/
theorem Stands.lt_of_isCutShort (h : Stands f contact id m first executed k)
    (h' : Stands f contact' id' m' first executed' k') (hcut : IsCutShort id m)
    (hended : HasEnded id' m') : executed <+: executed' ∧ executed.length < executed'.length := by
  obtain ⟨c, hc, hcut⟩ := hcut
  obtain ⟨n, hn, -⟩ := h.cut_before hc hcut
  have hlt := Flow.lt_of_behind? hn (h'.behind?_of_hasEnded hended)
  obtain ⟨i, rfl⟩ : ∃ i, k' = k + (i + 1) := ⟨k' - k - 1, by omega⟩
  rw [h.way, h'.way, Flow.ways_add_of_behind? hn (i + 1), List.length_append]
  exact ⟨List.prefix_append _ _, Nat.lt_add_of_pos_right (f.length_ways_succ_pos i n)⟩

/-- Two sessions that came to their ends have executed the same. -/
theorem Stands.eq_of_hasEnded (h : Stands f contact id m first executed k)
    (h' : Stands f contact' id' m' first executed' k') (hended : HasEnded id m)
    (hended' : HasEnded id' m') : executed = executed' := by
  rw [h.way, h'.way]
  rcases Nat.le_total k k' with hle | hle
  · exact (Flow.ways_of_behind?_none (h.behind?_of_hasEnded hended) hle).symm
  · exact Flow.ways_of_behind?_none (h'.behind?_of_hasEnded hended') hle

theorem furtherOf_add_one {k : Int} (hk : 1 ≤ k) : ((furtherOf k + 1 : Nat) : Int) = k := by
  unfold furtherOf
  rw [if_neg (by omega)]
  omega

/-- Every turn of a session executes a node at least, and no more nodes than its limit. -/
theorem Session.bounded {limit : Int} (hlimit : 1 ≤ limit) (hs : s.further = furtherOf limit)
    (h : Session s f contact id l turns) :
    ∀ ran ∈ turns, 1 ≤ ran.length ∧ ran.length ≤ limit := by
  intro ran hran
  obtain ⟨first, k, -, -, hbounds⟩ := h.along
  obtain ⟨hpos, hle⟩ := hbounds ran hran
  have hlength := furtherOf_add_one hlimit
  rw [hs] at hle
  exact ⟨hpos, by omega⟩

/-- The conversation of a session was cut short or came to its end. -/
theorem Session.hasEnded_or_isCutShort (h : Session s f contact id l turns) :
    HasEnded id l ∨ IsCutShort id l := by
  obtain ⟨first, k, -, hstands, -⟩ := h.along
  obtain ⟨c, hc, -⟩ := hstands.left
  cases hcut : c.entersOnResume with
  | false => exact Or.inl ⟨c, hc, hcut⟩
  | true => exact Or.inr ⟨c, hc, hcut⟩

/-- Under whatever limits a flow is started, and with whatever messages the turns are resumed that
were cut short: the nodes executed by one session are the first of those executed by the other, or
the other way round. Sessions that came to their ends have executed the same nodes, and one that was
cut short has executed fewer than one that came to its end. Every turn executes a node at least, and
no more nodes than its limit. -/
theorem Session.bounds_agree {s s' : Settings} {limit limit' : Int} (hlimit : 1 ≤ limit)
    (hlimit' : 1 ≤ limit') (hs : s.further = furtherOf limit) (hs' : s'.further = furtherOf limit')
    {f : Flow} {contact contact' : Contact} {id id' : String} {l l' : Ledger}
    {turns turns' : List (List String)} (h : Session s f contact id l turns)
    (h' : Session s' f contact' id' l' turns') :
    (turns.flatten <+: turns'.flatten ∨ turns'.flatten <+: turns.flatten) ∧
    (HasEnded id l ∨ IsCutShort id l) ∧
    (HasEnded id l → HasEnded id' l' → turns.flatten = turns'.flatten) ∧
    (IsCutShort id l → HasEnded id' l' →
      turns.flatten <+: turns'.flatten ∧ turns.flatten.length < turns'.flatten.length) ∧
    (∀ ran ∈ turns, 1 ≤ ran.length ∧ ran.length ≤ limit) ∧
    ∀ ran ∈ turns', 1 ≤ ran.length ∧ ran.length ≤ limit' := by
  obtain ⟨first, k, hfirst, hstands, -⟩ := h.along
  obtain ⟨first', k', hfirst', hstands', -⟩ := h'.along
  obtain rfl : first' = first := Option.some.inj (hfirst'.symm.trans hfirst)
  exact ⟨hstands.prefix_or_prefix hstands', h.hasEnded_or_isCutShort,
    hstands.eq_of_hasEnded hstands', hstands.lt_of_isCutShort hstands', h.bounded hlimit hs,
    h'.bounded hlimit' hs'⟩

/-! ## The flow with a pause -/

/-- Surroundings in which every node can be entered, all the time. -/
def calm : Stream' Around := Stream'.const (quietly none)

/-- A desk with the flow with a pause. -/
def pausingLedger : Ledger := { flows := [("pausing", pausing (.ofInt 5))] }

/-- The first turn of the visitor. -/
def firstVisit (limit : Int) : Except Failure TurnResult × Stream' Around × Ledger :=
  ((firstTurn { further := furtherOf limit } visitor "pausing" (pausing (.ofInt 5))
    { id := "start", body := .start } none none none).attempt >>= fun result => do
      ask (.release visitor.key)
      ofExcept result).run attended (calm, pausingLedger)

/-- The visitor answers, whose first turn was cut short before the pause. -/
def secondVisit : Except Failure TurnResult × Stream' Around × Ledger :=
  (resume { further := furtherOf 1 } visitor (some "hello")).run attended (calm, (firstVisit 1).2.2)

theorem session_of_firstVisit {limit : Int}
    (h : (firstVisit limit).1.toOption.any (fun r => r.success && r.conversation == some "talk") =
      true) :
    Session { further := furtherOf limit } (pausing (.ofInt 5)) visitor "talk"
      (firstVisit limit).2.2
      [nodesOf .executed (pausingLedger.toldSince (firstVisit limit).2.2 "talk")] := by
  obtain ⟨r, hrun, hr⟩ := eq_ok_of_any h
  simp only [Bool.and_eq_true, beq_iff_eq] at hr
  have hstart : (start { further := furtherOf limit } visitor "pausing" none none none).run attended
      (calm, pausingLedger) = (.ok r, (firstVisit limit).2.1, (firstVisit limit).2.2) := by
    rw [run_start_of_usable (g := pausing (.ofInt 5)) rfl rfl rfl rfl (isUsable_pausing _)]
    exact hrun
  exact .start (Ledger.isTidy_empty _) rfl hstart hr.1 hr.2

/-- With one node a turn, the visitor's first turn is cut short before the pause, and the second one
enters it; with two nodes a turn, the first turn does both. -/
theorem Session.bounds_agree_pausing :
    Session { further := furtherOf 1 } (pausing (.ofInt 5)) visitor "talk" secondVisit.2.2
      [["start"], ["pause"]] ∧
    Session { further := furtherOf 2 } (pausing (.ofInt 5)) visitor "talk" (firstVisit 2).2.2
      [["start", "pause"]] ∧
    HasEnded "talk" secondVisit.2.2 ∧ HasEnded "talk" (firstVisit 2).2.2 ∧
    [["start"], ["pause"]].flatten = [["start", "pause"]].flatten ∧
    ∀ ran ∈ [["start"], ["pause"]], 1 ≤ ran.length ∧ (ran.length : Int) ≤ 1 := by
  have hfirst : Session { further := furtherOf 1 } (pausing (.ofInt 5)) visitor "talk"
      (firstVisit 1).2.2 [["start"]] := by
    have hran : nodesOf .executed (pausingLedger.toldSince (firstVisit 1).2.2 "talk") =
        ["start"] := by decide +kernel
    rw [← hran]
    exact session_of_firstVisit (by decide +kernel)
  have hcut : ((firstVisit 1).2.2.find? "talk").any
      (fun c => c.entersOnResume && c.node == "pause") = true := by decide +kernel
  obtain ⟨c, hc, hcut⟩ := (Option.any_eq_true _ _).1 hcut
  simp only [Bool.and_eq_true, beq_iff_eq] at hcut
  have hsecond : Session { further := furtherOf 1 } (pausing (.ofInt 5)) visitor "talk"
      secondVisit.2.2 [["start"], ["pause"]] := by
    have hran : nodesOf .executed ((firstVisit 1).2.2.toldSince secondVisit.2.2 "talk") =
        ["pause"] := by decide +kernel
    have hsuccess : secondVisit.1.toOption.any (·.success) = true := by decide +kernel
    obtain ⟨r, hrun, hr⟩ := eq_ok_of_any hsuccess
    rw [show [["start"], ["pause"]] = [["start"]] ++ [["pause"]] from rfl, ← hran]
    refine .resume hfirst hc hcut.1 (fun n hn => ?_) hrun hr
    rw [hcut.2] at hn
    obtain rfl := Option.some.inj hn
    exact ⟨by decide, by decide⟩
  have hlong : Session { further := furtherOf 2 } (pausing (.ofInt 5)) visitor "talk"
      (firstVisit 2).2.2 [["start", "pause"]] := by
    have hran : nodesOf .executed (pausingLedger.toldSince (firstVisit 2).2.2 "talk") =
        ["start", "pause"] := by decide +kernel
    rw [← hran]
    exact session_of_firstVisit (by decide +kernel)
  have hended : ∀ l : Ledger, (l.find? "talk").any (fun c => !c.entersOnResume) = true →
      HasEnded "talk" l := by
    intro l hl
    obtain ⟨c, hc, hcut⟩ := (Option.any_eq_true _ _).1 hl
    exact ⟨c, hc, by simpa using hcut⟩
  have hfirstEnded : HasEnded "talk" secondVisit.2.2 := hended _ (by decide +kernel)
  have hlongEnded : HasEnded "talk" (firstVisit 2).2.2 := hended _ (by decide +kernel)
  obtain ⟨-, -, hagree, -, hbounded, -⟩ :=
    bounds_agree (show (1 : Int) ≤ 1 by decide) (show (1 : Int) ≤ 2 by decide) rfl rfl hsecond hlong
  exact ⟨hsecond, hlong, hfirstEnded, hlongEnded, hagree hfirstEnded hlongEnded, hbounded⟩

end Desk

end Parley
