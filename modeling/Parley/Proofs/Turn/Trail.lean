import Mathlib.Data.List.Chain
import Mathlib.Data.List.Induction
import Parley.Proofs.Turn.Parking

/-!
# Trails

What is told of a conversation is a trail through its flow (`Flow.IsTrail`): the first node that is
entered is the start, each next one is a step away from the one before it, and what is told to have
happened at a node is told of the node entered last. Failures and messages may stand anywhere.

A trail is read from the node entered last on, so that it can be cut at any entry
(`isTrail_append`). `IsTrail.isChain`, `IsTrail.start` and `IsTrail.about` say what a trail from the
beginning is, without that.

Whatever is answered outside, a turn goes on with the trail from the node at which it begins, to the
node at which it leaves its conversation, or to one before that where the conversation is to enter
its node first (`advance_walks`).
-/

namespace Parley

/-! ## Trails through a flow -/

/-- The node entered last, once an entry is written. -/
def Entry.place (last : Option String) (e : Entry) : Option String :=
  if e.action = .entered then some e.node else last

/-- The node entered last behind some entries. -/
def lastEntered (last : Option String) (es : List Entry) : Option String :=
  es.foldl Entry.place last

/-- An entry fits the node entered last. -/
def Entry.Follows (f : Flow) (last : Option String) (e : Entry) : Prop :=
  match e.action with
  | .entered => match last with
    | none => ∃ n, f.start? = some n ∧ n.id = e.node
    | some id => f.Leads id e.node
  | .executed | .conditionMet | .timeout => last = some e.node
  | .userInput | .error => True

/-- Every entry fits the node entered last before it. -/
def Flow.IsTrail (f : Flow) : Option String → List Entry → Prop
  | _, [] => True
  | last, e :: es => e.Follows f last ∧ f.IsTrail (e.place last) es

variable {f : Flow} {last : Option String} {e : Entry} {es es' : List Entry}

theorem lastEntered_append (last : Option String) (es es' : List Entry) :
    lastEntered last (es ++ es') = lastEntered (lastEntered last es) es' :=
  List.foldl_append

theorem isTrail_append : f.IsTrail last (es ++ es') ↔
    f.IsTrail last es ∧ f.IsTrail (lastEntered last es) es' := by
  induction es generalizing last with
  | nil => exact ⟨fun h => ⟨trivial, h⟩, fun h => h.2⟩
  | cons e es ih =>
    show _ ∧ f.IsTrail (e.place last) (es ++ es') ↔ _
    rw [ih]
    exact and_assoc.symm

theorem isTrail_singleton : f.IsTrail last [e] ↔ e.Follows f last :=
  and_iff_left trivial

theorem place_of_ne (h : e.action ≠ .entered) : e.place last = last := if_neg h

/-- Where no node is entered, the last one stays. -/
theorem lastEntered_of_forall (h : ∀ e ∈ es, e.action ≠ .entered) : lastEntered last es = last := by
  induction es generalizing last with
  | nil => rfl
  | cons e es ih =>
    show lastEntered (e.place last) es = last
    rw [place_of_ne (h e List.mem_cons_self)]
    exact ih fun e' he' => h e' (List.mem_cons_of_mem _ he')

/-- The node entered last is the last of those that were entered. -/
theorem lastEntered_eq (last : Option String) (es : List Entry) :
    lastEntered last es = (nodesOf .entered es).getLast?.or last := by
  induction es using List.reverseRecOn with
  | nil => rfl
  | append_singleton es e ih =>
    rw [lastEntered_append, ih, nodesOf_append, nodesOf_singleton]
    show e.place _ = _
    unfold Entry.place
    split <;> simp

/-- The nodes of a trail are entered along the ways of the flow. -/
theorem Flow.IsTrail.isChain (h : f.IsTrail none es) : (nodesOf .entered es).IsChain f.Leads := by
  induction es using List.reverseRecOn with
  | nil => exact .nil
  | append_singleton es e ih =>
    obtain ⟨hes, he⟩ := isTrail_append.1 h
    rw [isTrail_singleton, lastEntered_eq] at he
    rw [nodesOf_append, nodesOf_singleton]
    by_cases hentered : e.action = .entered
    · rw [if_pos hentered]
      refine List.isChain_append.2 ⟨ih hes, List.isChain_singleton _, fun a ha b hb => ?_⟩
      obtain rfl : e.node = b := by simpa using hb
      simpa [Entry.Follows, hentered, Option.mem_def.1 ha] using he
    · rw [if_neg hentered, List.append_nil]
      exact ih hes

/-- The first node of a trail is the start. -/
theorem Flow.IsTrail.start {id : String} (h : f.IsTrail none es)
    (hid : (nodesOf .entered es).head? = some id) : ∃ n, f.start? = some n ∧ n.id = id := by
  induction es using List.reverseRecOn with
  | nil => cases hid
  | append_singleton es e ih =>
    obtain ⟨hes, he⟩ := isTrail_append.1 h
    rw [nodesOf_append, List.head?_append] at hid
    cases hfirst : (nodesOf .entered es).head? with
    | some a =>
      rw [hfirst] at hid
      exact ih hes (hfirst.trans hid)
    | none =>
      have hnone : nodesOf .entered es = [] := List.head?_eq_none_iff.1 hfirst
      rw [hnone, nodesOf_singleton] at hid
      rw [isTrail_singleton, lastEntered_eq, hnone] at he
      by_cases hentered : e.action = .entered
      · rw [if_pos hentered] at hid
        obtain rfl : e.node = id := by simpa using hid
        simpa [Entry.Follows, hentered] using he
      · rw [if_neg hentered] at hid
        cases hid

/-- What is told in a trail to have happened at a node is told of the node entered last. -/
theorem Flow.IsTrail.about {before behind : List Entry}
    (h : f.IsTrail none (before ++ e :: behind))
    (ha : e.action ∈ [Action.executed, .conditionMet, .timeout]) :
    (nodesOf .entered before).getLast? = some e.node := by
  obtain ⟨-, he, -⟩ := isTrail_append.1 h
  rw [lastEntered_eq, Option.or_none] at he
  rcases e with ⟨_, _, _, action, _⟩
  cases action <;> first | exact he | simp at ha

/-- Failures take no part in a trail. -/
theorem isTrail_filter (f : Flow) (last : Option String) (es : List Entry) :
    f.IsTrail last (es.filter (·.action ≠ .error)) ↔ f.IsTrail last es := by
  induction es generalizing last with
  | nil => exact Iff.rfl
  | cons e es ih =>
    by_cases he : e.action = .error
    · rw [List.filter_cons_of_neg (by simpa using he), ih]
      show _ ↔ e.Follows f last ∧ f.IsTrail (e.place last) es
      rw [place_of_ne (by simp [he])]
      simp [Entry.Follows, he]
    · rw [List.filter_cons_of_pos (by simpa using he)]
      exact and_congr_right fun _ => ih _

theorem nodesOf_filter {a : Action} (ha : a ≠ .error) (es : List Entry) :
    nodesOf a (es.filter (·.action ≠ .error)) = nodesOf a es := by
  unfold nodesOf
  rw [List.filter_filter]
  congr 1
  refine List.filter_congr fun e _ => ?_
  by_cases he : e.action = a
  · simp [he, ha]
  · simp [he]

/-- How a conversation stands behind the node entered last: there, or one step away where it is to
enter its node first. One that waits for a timer has entered its node. -/
structure Conversation.ComesAfter (c : Conversation) (f : Flow) (last : Option String) : Prop where
  stands : ∃ id, last = some id ∧ if c.entersOnResume then f.Leads id c.node else c.node = id
  parked : c.isParked = true → c.entersOnResume = false

/-! ## Turns -/

namespace Turn

variable {t u : Turn} {n m : Node} {id : String}

/-- What is told of the node entered last. -/
theorem isTrail_of_isAbout {told : List Entry} (h : ∀ e ∈ told, IsAbout id n e) :
    f.IsTrail (some n.id) told ∧ ∀ last, lastEntered last told = last := by
  have hnone : ∀ e ∈ told, e.action ≠ .entered := fun e he => by
    rcases (h e he).action with ha | ha <;> simp [ha]
  refine ⟨?_, fun last => lastEntered_of_forall hnone⟩
  induction told with
  | nil => trivial
  | cons e told ih =>
    have hplace : e.place (some n.id) = some n.id := place_of_ne (hnone e List.mem_cons_self)
    obtain ⟨-, hnode, haction⟩ := h e List.mem_cons_self
    refine ⟨?_, ?_⟩
    · rcases haction with ha | ha <;> simp [Entry.Follows, ha, hnode]
    · rw [hplace]
      exact ih (fun e' he' => h e' (List.mem_cons_of_mem _ he'))
        fun e' he' => hnone e' (List.mem_cons_of_mem _ he')

/-- A turn goes on with the trail from a node. Its conversation stands behind the trail, unless it
is to enter its node next from the beginning. -/
def Walks (t : Turn) (n : Node) : Course → Prop
  | .settled u => ∃ told, u.history = t.history ++ told ∧ t.flow.IsTrail (some n.id) told ∧
      (∀ e ∈ told, e.conversation = t.conversation.id) ∧
      (t.conversation.entersOnResume = false →
        u.conversation.ComesAfter t.flow (lastEntered (some n.id) told))
  | .broken _ _ => True

/-- A turn ends where it stands. -/
theorem walks_ended {executed : Bool} (h : t.Goes n executed (.ended u)) :
    t.Walks n (.settled u) := by
  obtain ⟨-, ⟨told, hu, habout, -⟩, hnode, hsame, -⟩ := h
  obtain ⟨htrail, hlast⟩ := isTrail_of_isAbout (f := t.flow) habout
  refine ⟨told, hu, htrail, fun e he => (habout e he).own, fun henters => ?_⟩
  have hclear : u.conversation.entersOnResume = false := hsame.trans henters
  refine ⟨?_, fun _ => hclear⟩
  rw [hlast, hclear]
  exact ⟨n.id, rfl, hnode⟩

/-- A turn is cut short before a node. -/
theorem walks_cut {executed : Bool} (h : t.Goes n executed (.node u m)) (hn : n ∈ t.flow.nodes) :
    t.Walks n (.settled (u.cut m.id)) := by
  obtain ⟨-, ⟨told, hu, habout, -⟩, -, -, hm⟩ := h
  obtain ⟨htrail, hlast⟩ := isTrail_of_isAbout (f := t.flow) habout
  refine ⟨told, hu, htrail, fun e he => (habout e he).own, fun _ => ⟨?_, fun hparked => ?_⟩⟩
  · rw [hlast]
    exact ⟨n.id, rfl, n, hn, rfl, hm⟩
  · simp [cut, Conversation.isParked] at hparked

/-- A turn enters the next node and goes on from there. -/
theorem walks_next {executed : Bool} {course : Course} (h : t.Goes n executed (.node u m))
    (hn : n ∈ t.flow.nodes) (hwalks : (u.record m .entered).Walks m course) :
    t.Walks n course := by
  cases course with
  | broken v e => trivial
  | settled v =>
    obtain ⟨hs, ⟨told, hu, habout, -⟩, hsame, -, hm⟩ := h
    obtain ⟨further, hv, htrail, hown, hafter⟩ := hwalks
    have hflow : (u.record m .entered).flow = t.flow := hs.flow
    rw [hflow] at htrail hafter
    obtain ⟨htold, hlast⟩ := isTrail_of_isAbout (f := t.flow) habout
    have hentered : (u.entry m .entered).place (some n.id) = some m.id := rfl
    refine ⟨told ++ u.entry m .entered :: further, ?_, ?_, fun e he => ?_, fun henters => ?_⟩
    · rw [hv]
      show (u.history ++ [u.entry m .entered]) ++ further = _
      rw [hu]
      simp
    · refine isTrail_append.2 ⟨htold, ?_, ?_⟩
      · rw [hlast]
        exact ⟨n, hn, rfl, hm⟩
      · rw [hlast, hentered]
        exact htrail
    · rcases List.mem_append.1 he with he | he
      · exact (habout e he).own
      · rcases List.mem_cons.1 he with rfl | he
        · exact hs.id
        · exact (hown e he).trans hs.id
    · rw [lastEntered_append, hlast]
      show v.conversation.ComesAfter t.flow (lastEntered ((u.entry m .entered).place _) further)
      rw [hentered]
      exact hafter (hsame.trans henters)

/-- A turn that settles goes on with the trail from the node at which it began. -/
theorem advance_walks (left : Nat) (t : Turn) {n : Node} (hn : n ∈ t.flow.nodes)
    (resuming : Bool) :
    (t.advance left n resuming).Yields (Program.Either (t.Walks n) fun _ => True) := by
  induction left generalizing t n resuming with
  | zero =>
    refine yields_advance.2 ((step_goes t n resuming).mono ?_)
    rintro (e | u | ⟨u, m⟩) hr
    · exact trivial
    · exact walks_ended hr
    · exact walks_cut hr hn
  | succ left ih =>
    refine yields_advance.2 ((step_goes t n resuming).mono ?_)
    rintro (e | u | ⟨u, m⟩) hr
    · exact trivial
    · exact walks_ended hr
    · have hgoes : t.Goes n (visits n resuming) (.node u m) := hr
      obtain ⟨hs, -, -, hm, -⟩ := hr
      refine (ih (u.record m .entered) (n := m) (hs.flow ▸ hm) false).mono ?_
      rintro (e | course) hv
      · exact trivial
      · exact walks_next hgoes hn hv

end Turn

end Parley
