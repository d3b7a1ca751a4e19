import Mathlib.Data.List.Chain
import Parley.Proofs.Program.Runs
import Parley.Proofs.Turn.Telling

/-!
# The stops of a turn

A turn stops at one node after the other. `Turn.stops` lists its stops in given surroundings, each
with the turn as it came there and with what came of it. The last of them tells what the turn comes
to (`run_advance`), each but the first follows on the one before it (`isChain_stops`), and a stop
that leads to no node is the last one (`eq_nil_of_ends`).

What came of a stop is what its step comes to there (`Stop.IsReal`), so facts about steps are facts
about stops (`Stop.IsReal.of_yields`), and what passes from each stop to the next one holds at all
of them (`stops_induct`).
-/

namespace Parley.Turn

/-- A stop of a turn at a node. -/
structure Stop (σ : Type) where
  /-- The turn as it came to the node. -/
  turn : Turn
  node : Node
  /-- Whether the turn began here, where its conversation waited. -/
  resuming : Bool
  /-- The surroundings as the turn came to the node. -/
  state : σ
  onto : Except Failure Onto

variable {σ : Type} {answer : (q : Outside.Ask) → σ → Except Failure q.Answer × σ} {s : σ}
  {t u : Turn} {n m : Node} {left : Nat} {resuming : Bool}

/-- The stops of a turn that begins at a node. -/
def stops (answer : (q : Outside.Ask) → σ → Except Failure q.Answer × σ) :
    (left : Nat) → Turn → Node → (resuming : Bool) → σ → List (Stop σ)
  | left, t, n, resuming, s =>
    let (onto, s') := (t.step n resuming).run answer s
    { turn := t, node := n, resuming, state := s, onto } :: match left, onto with
      | left + 1, .ok (.node u m) => stops answer left (u.record m .entered) m false s'
      | _, _ => []

namespace Stop

variable {x y : Stop σ}

/-- What a turn comes to that goes no further. -/
def course (x : Stop σ) : Course :=
  match x.onto with
  | .ok (.ended u) => .settled u
  | .ok (.node u m) => .settled (u.cut m.id)
  | .error f => .broken (x.turn.standAt x.node.id) f

/-- Whether the node is visited, rather than passed. -/
def visits (x : Stop σ) : Bool := Turn.visits x.node x.resuming

/-- What came of the stop is what its step comes to. -/
def IsReal (answer : (q : Outside.Ask) → σ → Except Failure q.Answer × σ) (x : Stop σ) : Prop :=
  ((x.turn.step x.node x.resuming).run answer x.state).1 = x.onto

/-- What a step comes to whatever is answered has come of the stop. -/
theorem IsReal.of_yields {Q : Except Failure Onto → Prop} (h : x.IsReal answer)
    (hQ : (x.turn.step x.node x.resuming).Yields Q) : Q x.onto :=
  h ▸ hQ.run answer x.state

/-- The second stop comes right after the first. -/
def Follows (x y : Stop σ) : Prop :=
  ∃ u, x.onto = .ok (.node u y.node) ∧ y.turn = u.record y.node .entered ∧ y.resuming = false

end Stop

/-- A turn stops at the node where it begins. It goes no further, or goes on with the stops from the
next node. -/
theorem stops_cases (answer : (q : Outside.Ask) → σ → Except Failure q.Answer × σ) (left : Nat)
    (t : Turn) (n : Node) (resuming : Bool) (s : σ) :
    ∃ onto, ({ turn := t, node := n, resuming, state := s, onto } : Stop σ).IsReal answer ∧
      (t.stops answer left n resuming s = [{ turn := t, node := n, resuming, state := s, onto }] ∧
          ((t.advance left n resuming).run answer s).1 =
            .ok ({ turn := t, node := n, resuming, state := s, onto } : Stop σ).course ∧
          (∀ l u m, left = l + 1 → onto ≠ .ok (.node u m)) ∨
        ∃ l u m s', left = l + 1 ∧ onto = .ok (.node u m) ∧
          t.stops answer left n resuming s =
            { turn := t, node := n, resuming, state := s, onto } ::
              (u.record m .entered).stops answer l m false s' ∧
          (t.advance left n resuming).run answer s =
            ((u.record m .entered).advance l m false).run answer s') := by
  obtain ⟨onto, s', hrun⟩ : ∃ onto s', (t.step n resuming).run answer s = (onto, s') :=
    ⟨_, _, rfl⟩
  have hadvance : (t.advance left n resuming).run answer s = _ :=
    (congrArg (Program.run answer · s) (advance.eq_def ..)).trans
      (Program.run_bind_of_ok (Program.run_attempt_ok.2 hrun))
  have hstops : t.stops answer left n resuming s =
      { turn := t, node := n, resuming, state := s, onto } :: match left, onto with
        | left + 1, .ok (.node u m) => stops answer left (u.record m .entered) m false s'
        | _, _ => [] := by
    rw [stops.eq_def answer left t]
    dsimp only
    rw [hrun]
  refine ⟨onto, congrArg Prod.fst hrun, ?_⟩
  rw [hadvance, hstops]
  rcases onto with e | u | ⟨u, m⟩
  · exact .inl ⟨by cases left <;> rfl, rfl, by rintro l u m - ⟨⟩⟩
  · exact .inl ⟨by cases left <;> rfl, rfl, by rintro l u m - ⟨⟩⟩
  · cases left with
    | zero => exact .inl ⟨rfl, rfl, by rintro l u m ⟨⟩⟩
    | succ l => exact .inr ⟨l, u, m, s', rfl, rfl, rfl, rfl⟩

/-- The first stop is at the node where the turn begins. -/
theorem head?_stops (answer : (q : Outside.Ask) → σ → Except Failure q.Answer × σ) (left : Nat)
    (t : Turn) (n : Node) (resuming : Bool) (s : σ) :
    ∃ x : Stop σ, (t.stops answer left n resuming s).head? = some x ∧
      x.turn = t ∧ x.node = n ∧ x.resuming = resuming := by
  obtain ⟨onto, -, ⟨hstops, -⟩ | ⟨_, _, _, _, -, -, hstops, -⟩⟩ :=
    stops_cases answer left t n resuming s <;>
  exact ⟨_, by rw [hstops]; rfl, rfl, rfl, rfl⟩

theorem isReal_of_mem_stops {x : Stop σ} (hx : x ∈ t.stops answer left n resuming s) :
    x.IsReal answer := by
  induction left generalizing t n resuming s with
  | zero =>
    obtain ⟨_, hreal, ⟨hstops, -⟩ | ⟨_, _, _, _, hleft, -⟩⟩ := stops_cases answer 0 t n resuming s
    · rw [hstops] at hx
      rwa [List.mem_singleton.1 hx]
    · cases hleft
  | succ left ih =>
    obtain ⟨_, hreal, ⟨hstops, -⟩ | ⟨_, _, _, _, ⟨⟩, -, hstops, -⟩⟩ :=
      stops_cases answer (left + 1) t n resuming s <;> rw [hstops] at hx
    · rwa [List.mem_singleton.1 hx]
    · rcases List.mem_cons.1 hx with rfl | hx
      · exact hreal
      · exact ih hx

/-- Each stop but the first follows on the one before it. -/
theorem isChain_stops (answer : (q : Outside.Ask) → σ → Except Failure q.Answer × σ) (left : Nat)
    (t : Turn) (n : Node) (resuming : Bool) (s : σ) :
    (t.stops answer left n resuming s).IsChain Stop.Follows := by
  induction left generalizing t n resuming s with
  | zero =>
    obtain ⟨_, -, ⟨hstops, -⟩ | ⟨_, _, _, _, hleft, -⟩⟩ := stops_cases answer 0 t n resuming s
    · rw [hstops]
      exact .singleton _
    · cases hleft
  | succ left ih =>
    obtain ⟨_, -, ⟨hstops, -⟩ | ⟨_, u, m, s', ⟨⟩, honto, hstops, -⟩⟩ :=
      stops_cases answer (left + 1) t n resuming s <;> rw [hstops]
    · exact .singleton _
    · refine List.isChain_cons.2 ⟨fun z hz => ?_, ih _ _ _ _⟩
      obtain ⟨w, hw, hturn, hnode, hresuming⟩ :=
        head?_stops answer left (u.record m .entered) m false s'
      obtain rfl : w = z := Option.some.inj (hw.symm.trans hz)
      exact ⟨u, by rw [hnode]; exact honto, by rw [hnode]; exact hturn, hresuming⟩

/-- A stop right behind another one follows on it. -/
theorem follows_of_getElem? {i : Nat} {x y : Stop σ}
    (hx : (t.stops answer left n resuming s)[i]? = some x)
    (hy : (t.stops answer left n resuming s)[i + 1]? = some y) : x.IsReal answer ∧ x.Follows y := by
  refine ⟨isReal_of_mem_stops (List.mem_of_getElem? hx), ?_⟩
  obtain ⟨hi, rfl⟩ := List.getElem?_eq_some_iff.1 hx
  obtain ⟨hi', rfl⟩ := List.getElem?_eq_some_iff.1 hy
  exact (isChain_stops answer left t n resuming s).getElem i hi'

/-- The last stop tells what the turn comes to. -/
theorem run_advance (answer : (q : Outside.Ask) → σ → Except Failure q.Answer × σ) (left : Nat)
    (t : Turn) (n : Node) (resuming : Bool) (s : σ) :
    ∃ x, (t.stops answer left n resuming s).getLast? = some x ∧
      ((t.advance left n resuming).run answer s).1 = .ok x.course := by
  induction left generalizing t n resuming s with
  | zero =>
    obtain ⟨_, -, ⟨hstops, hrun, -⟩ | ⟨_, _, _, _, hleft, -⟩⟩ := stops_cases answer 0 t n resuming s
    · exact ⟨_, by rw [hstops]; rfl, hrun⟩
    · cases hleft
  | succ left ih =>
    obtain ⟨_, -, ⟨hstops, hrun, -⟩ | ⟨_, u, m, s', ⟨⟩, -, hstops, hrun⟩⟩ :=
      stops_cases answer (left + 1) t n resuming s
    · exact ⟨_, by rw [hstops]; rfl, hrun⟩
    · obtain ⟨x, hlast, hx⟩ := ih (u.record m .entered) m false s'
      refine ⟨x, ?_, by rw [hrun]; exact hx⟩
      rw [hstops, List.getLast?_cons, hlast]
      rfl

/-- Nothing comes behind a stop that leads to no node. -/
theorem eq_nil_of_ends {x : Stop σ} {before behind : List (Stop σ)}
    (hsplit : t.stops answer left n resuming s = before ++ x :: behind)
    (hends : ∀ u m, x.onto ≠ .ok (.node u m)) : behind = [] := by
  have hchain := isChain_stops answer left t n resuming s
  rw [hsplit] at hchain
  cases behind with
  | nil => rfl
  | cons y behind =>
    obtain ⟨u, honto, -⟩ := (List.isChain_cons.1 hchain.right_of_append).1 y rfl
    exact absurd honto (hends u y.node)

theorem getLast?_of_ends {x : Stop σ} (hx : x ∈ t.stops answer left n resuming s)
    (hends : ∀ u m, x.onto ≠ .ok (.node u m)) :
    (t.stops answer left n resuming s).getLast? = some x := by
  obtain ⟨before, behind, hsplit⟩ := List.append_of_mem hx
  rw [hsplit, eq_nil_of_ends hsplit hends]
  exact List.getLast?_concat

/-- What a turn comes to is what comes of a stop that leads to no node. -/
theorem run_advance_of_ends {x : Stop σ} (hx : x ∈ t.stops answer left n resuming s)
    (hends : ∀ u m, x.onto ≠ .ok (.node u m)) :
    ((t.advance left n resuming).run answer s).1 = .ok x.course := by
  obtain ⟨y, hy, hrun⟩ := run_advance answer left t n resuming s
  obtain rfl : x = y := Option.some.inj ((getLast?_of_ends hx hends).symm.trans hy)
  exact hrun

/-- What holds where the turn begins, and passes from a stop to the one behind it, holds at all
stops. -/
theorem stops_induct {I : Stop σ → Prop}
    (hfirst : ∀ x : Stop σ, x.turn = t → x.node = n → x.resuming = resuming → I x)
    (hnext : ∀ x y : Stop σ, x ∈ t.stops answer left n resuming s → I x → x.Follows y → I y) :
    ∀ x ∈ t.stops answer left n resuming s, I x := by
  have hchain : (t.stops answer left n resuming s).IsChain
      fun x y => x ∈ t.stops answer left n resuming s ∧ x.Follows y :=
    (isChain_stops ..).imp_of_mem_imp fun x y hx _ hxy => ⟨hx, hxy⟩
  refine hchain.induction I _ (fun x y hxy hx => hnext x y hxy.1 hx hxy.2) fun hne => ?_
  obtain ⟨x, hhead, hturn, hnode, hresuming⟩ := head?_stops answer left t n resuming s
  rw [List.head?_eq_some_head hne] at hhead
  cases hhead
  exact hfirst _ hturn hnode hresuming

/-! ## Stops at which nothing is asked

A visit to a question, a branch or a pause asks nothing outside, so what comes of the stop is told
by the turn that came there, unless the node cannot be entered at all.
-/

namespace Stop

/-- The node of the stop cannot be entered in its surroundings. -/
def IsBarred (answer : (q : Outside.Ask) → σ → Except Failure q.Answer × σ) (x : Stop σ) : Prop :=
  x.resuming = false ∧ ∃ f, (answer (.enter x.node.kind) x.state).1 = .error f ∧ x.onto = .error f

/-- What comes of a stop whose visit asks nothing outside. -/
theorem IsReal.onto_eq {x : Stop σ} {e : Except Failure (Turn × Step)} (h : x.IsReal answer)
    (hvisits : x.visits = true)
    (hvisit : (x.turn.standAt x.node.id).visit x.node = Program.ofExcept e) :
    x.IsBarred answer ∨
      x.onto = e.map fun r => (r.1.record x.node .executed none r.2.text).take r.2 := by
  have hpass : (x.resuming && !isAskedAgain x.node) = false := by
    unfold visits Turn.visits at hvisits
    revert hvisits
    cases x.resuming <;> cases isAskedAgain x.node <;> simp
  have hrest : ∀ s : σ, (((x.turn.standAt x.node.id).visit x.node >>= fun r =>
      pure ((r.1.record x.node .executed none r.2.text).take r.2)).run answer s).1 =
        e.map fun r => (r.1.record x.node .executed none r.2.text).take r.2 := by
    intro s
    rw [hvisit]
    cases e <;> rfl
  unfold IsReal step at h
  dsimp only at h
  rw [if_neg (by simp [hpass])] at h
  cases hresuming : x.resuming with
  | true =>
    rw [hresuming] at h
    exact .inr (h.symm.trans (hrest x.state))
  | false =>
    rw [hresuming] at h
    obtain ⟨r, s, hanswer⟩ : ∃ r s, answer (.enter x.node.kind) x.state = (r, s) := ⟨_, _, rfl⟩
    have hasked : (Outside.ask (.enter x.node.kind)).run answer x.state = (.ok r, s) :=
      (Program.run_call ..).trans (by rw [hanswer])
    have hentered : ((x.turn.standAt x.node.id).enter x.node).run answer x.state =
        (Program.ofExcept r >>= fun _ => (x.turn.standAt x.node.id).visit x.node).run answer s := by
      unfold enter Outside.demand
      rw [bind_assoc]
      exact Program.run_bind_of_ok hasked
    cases r with
    | error f =>
      refine .inl ⟨hresuming, f, by rw [hanswer], ?_⟩
      rw [← h]
      exact congrArg Prod.fst (Program.run_bind_of_error hentered)
    | ok a =>
      refine .inr ((h.symm.trans ?_).trans (hrest s))
      show (((enter _ _).bind _).run answer x.state).1 = (((visit _ _).bind _).run answer s).1
      rw [Program.run_bind, Program.run_bind, hentered]
      rfl

/-- At the stop a turn says something and waits for an answer. Nothing else is said, told or
changed. -/
structure Waits (x : Stop σ) (said : String) (u : Turn) : Prop where
  onto : x.onto = .ok (.ended u)
  conversation : u.conversation =
    { x.turn.conversation with node := x.node.id, awaitsInput := true }
  version : u.version = x.turn.version
  isNew : u.isNew = x.turn.isNew
  texts : u.texts = x.turn.texts ++ [said].filter (· != "")
  media : u.media = x.turn.media
  history : u.history = x.turn.history ++ [x.turn.entry x.node .executed none (some said)]

/-- A visit that drops the message and waits is all that comes of its stop. -/
theorem IsReal.waits {x : Stop σ} {said : String} (h : x.IsReal answer) (hvisits : x.visits = true)
    (hvisit : (x.turn.standAt x.node.id).visit x.node = Program.ofExcept
      (.ok ((x.turn.standAt x.node.id).withoutInput, { onward := .wait, text := some said }))) :
    x.IsBarred answer ∨ ∃ u, x.Waits said u := by
  refine (h.onto_eq hvisits hvisit).imp_right fun honto => ?_
  have hended : x.onto = .ok (.ended ((((x.turn.standAt x.node.id).withoutInput.record x.node
      .executed none (some said)).withoutInput.say (some said) none).awaiting)) := honto
  exact ⟨_, hended, rfl, rfl, rfl, rfl, List.append_nil x.turn.media, rfl⟩

theorem Waits.ends {x : Stop σ} {said : String} (h : x.Waits said u) (v : Turn) (m : Node) :
    x.onto ≠ .ok (.node v m) := fun hnode => by
  cases h.onto.symm.trans hnode

/-- A turn that waits for an answer has come to its end. -/
theorem Waits.settles {x : Stop σ} {said : String} (h : x.Waits said u)
    (hx : x ∈ t.stops answer left n resuming s) :
    ((t.advance left n resuming).run answer s).1 = .ok (.settled u) := by
  refine (run_advance_of_ends hx h.ends).trans ?_
  unfold course
  rw [h.onto]

end Stop

end Parley.Turn
