import Parley.Proofs.Turn.Telling

/-!
# Where a turn parks, and what it tells

A turn that comes to its end waiting for a timer stands at a pause of its flow. That a timer went off
is told by whoever begins a turn for it, and nothing that happens in the turn tells it again
(`Turn.timeouts`). Both hold wherever the turn began (`advance_parks`).
-/

namespace Parley

/-- The conversation waits for a timer. -/
def Conversation.isParked (c : Conversation) : Bool := c.isActive && !c.awaitsInput

/-- A flow has a pause under an id. -/
def Flow.PausesAt (f : Flow) (id : String) : Prop :=
  ∃ n ∈ f.nodes, n.id = id ∧ ∃ p, n.body = .pause p

namespace Turn

variable {t u : Turn} {n : Node}

/-- What a turn tells of timers that went off. -/
def timeouts (t : Turn) : List Entry := t.history.filter (·.action = .timeout)

theorem timeouts_record {a : Action} (ha : a ≠ .timeout) (t : Turn) (n : Node)
    (input output label : Option String) :
    (t.record n a input output label).timeouts = t.timeouts := by
  simp [timeouts, record, entry, ha]

/-- What is told of a node tells of no timer. -/
theorem Tells.timeouts {executed : Bool} (h : t.Tells n executed u) : u.timeouts = t.timeouts := by
  obtain ⟨told, hu, habout, -⟩ := h
  have hnone : told.filter (·.action = .timeout) = [] := by
    refine List.filter_eq_nil_iff.2 fun e he => ?_
    rcases (habout e he).action with ha | ha <;> simp [ha]
  rw [Turn.timeouts, Turn.timeouts, hu, List.filter_append, hnone, List.append_nil]

/-! ## Turns -/

/-- A turn that ends where it stands is parked at a pause, if at all. -/
theorem pausesAt_of_goes {executed : Bool} (h : t.Goes n executed (.ended u))
    (hn : n ∈ t.flow.nodes) (hparked : u.conversation.isParked = true) :
    t.flow.PausesAt u.conversation.node := by
  obtain ⟨-, -, hnode, -, hpause⟩ := h
  simp only [Conversation.isParked, Bool.and_eq_true, Bool.not_eq_true'] at hparked
  exact ⟨n, hn, hnode.symm, hpause hparked.1 hparked.2⟩

/-- How a turn may settle. -/
def Parks (t : Turn) : Course → Prop
  | .settled u => u.timeouts = t.timeouts ∧
      (u.conversation.isParked = true → t.flow.PausesAt u.conversation.node)
  | .broken _ _ => True

/-- A turn that settles tells of no timer but those that were told of at its beginning, and parks at
a pause of its flow if at all. -/
theorem advance_parks (left : Nat) (t : Turn) {n : Node} (hn : n ∈ t.flow.nodes)
    (resuming : Bool) :
    (t.advance left n resuming).Yields (Program.Either t.Parks fun _ => True) := by
  induction left generalizing t n resuming with
  | zero =>
    refine yields_advance.2 ((step_goes t n resuming).mono ?_)
    rintro (e | u | ⟨u, m⟩) hr
    · exact trivial
    · exact ⟨hr.2.1.timeouts, pausesAt_of_goes hr hn⟩
    · refine ⟨hr.2.1.timeouts, fun hp => ?_⟩
      simp [Conversation.isParked, cut] at hp
  | succ left ih =>
    refine yields_advance.2 ((step_goes t n resuming).mono ?_)
    rintro (e | u | ⟨u, m⟩) hr
    · exact trivial
    · exact ⟨hr.2.1.timeouts, pausesAt_of_goes hr hn⟩
    · obtain ⟨hs, htells, -, hm, -⟩ := hr
      have hrecord : (u.record m .entered).timeouts = u.timeouts :=
        timeouts_record (by decide) _ _ _ _ _
      refine (ih (u.record m .entered) (n := m) (by rw [← hs.flow] at hm; exact hm) false).mono ?_
      rintro (e | v | ⟨v, e⟩) hv
      · exact trivial
      · obtain ⟨htold, hparked⟩ := hv
        exact ⟨htold.trans (hrecord.trans htells.timeouts), fun hp => hs.flow ▸ hparked hp⟩
      · exact trivial

end Turn

end Parley
