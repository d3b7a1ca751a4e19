import Parley.Proofs.Dictionary
import Parley.Proofs.Program.Protocol
import Parley.Store.Tabular

/-!
# What a store asks of its tables

A question to a tabular store becomes a few requests, with whatever others do to the tables in
between. `Tabular.conduct` is the protocol that its requests keep to, as long as every row of a
conversation that it is told has a whole number for its version, or none (`Tabular.Hears`). The
standing is the list of the rows that were selected and are still to be ended.

A row of a conversation is changed in two ways only (`Tabular.Cause`). A save passes over every row
that is not at the expected version. The end of a contact's conversations goes by the id alone, and
writes what follows the version that was selected.
-/

namespace Parley

namespace Store.Tabular

open Program

/-- The version in a row is a whole number, or there is none yet. -/
def IsNumbered (row : Row) : Prop :=
  row.cell "version" = .null ∨ ∃ n, row.cell "version" = .int n

/-- The version in a row, nought where there is none. -/
def versionOf (row : Row) : Int :=
  match row.cell "version" with
  | .int n => n
  | .bool true => 1
  | _ => 0

/-- Why rows are changed, and to which version. -/
inductive Cause (q : Ask) (left : List Row) (filters : List Filter) (version : Int) : Prop where
  /-- A conversation is saved over the expected version. -/
  | save (c : Conversation) (expected : Int) (hq : q = .save c expected)
    (hfilters : filters = [.equal "id" (.str c.id), .equal "version" (.int expected)])
    (hversion : version = expected + 1)
  /-- A row that was selected is ended, whatever has become of it. -/
  | deactivate (contact : Contact) (row : Row) (rest : List Row) (hq : q = .deactivate contact)
    (hleft : left = row :: rest) (hfilters : filters = [.equal "id" (row.cell "id")])
    (hversion : version = versionOf row + 1)

/-- How rows of conversations are changed: the id stays, and the version is put down. -/
structure Changes (q : Ask) (left : List Row) (changes : Fields) (filters : List Filter)
    (written : Int) : Prop where
  nodup : (Dictionary.keys changes).Nodup
  id : Dictionary.find? changes "id" = none
  version : Dictionary.find? changes "version" = some (.int written)
  cause : Cause q left filters written

/-- Whether a request may be put. -/
def May (q : Ask) (left : List Row) : Request → Prop
  | .select _ _ _ => True
  | .insert table row => table = conversationTable → IsNumbered row
  | .update table changes filters =>
    table = conversationTable ∧ ∃ written, Changes q left changes filters written

/-- What the tables tell: the rows of conversations are numbered. -/
def Hears : Request → List Row → Prop
  | .select table _ _, rows => table = conversationTable → ∀ row ∈ rows, IsNumbered row
  | .insert _ _, _ => True
  | .update _ _ _, _ => True

/-- The rows that are still to be ended after an answer. -/
def leftAfter (left : List Row) : Request → List Row → List Row
  | .select table _ _, rows => if table = conversationTable then rows else left
  | .insert _ _, _ => left
  | .update _ _ _, _ => left.tail

/-- How the requests of a question are conducted. -/
def conduct (q : Ask) : Protocol Database.Access (List Row) where
  may := May q
  hears := Hears
  after := leftAfter

variable {α : Type} {q : Ask} {left : List Row}

/-- Requests that keep to the conduct. -/
def Conducted (q : Ask) (left : List Row) (requests : Requests α) : Prop :=
  requests.Keeps (conduct q) left fun _ _ => True

/-- A row is numbered once its version was put down. -/
theorem isNumbered_of_find? {row : Row} {n : Int}
    (h : Dictionary.find? row "version" = some (.int n)) : IsNumbered row := by
  refine Or.inr ⟨n, ?_⟩
  unfold Row.cell
  rw [h]
  rfl

theorem conducted_put {β : Type} {r : Request} {f : List Row → Requests β} (hmay : May q left r)
    (hf : ∀ rows, Hears r rows → Conducted q (leftAfter left r rows) (f rows)) :
    Conducted q left (Database.put r >>= f) :=
  ⟨hmay, hf⟩

theorem conducted_ofExcept (e : Except Failure α) :
    Conducted q left (ofExcept e : Requests α) :=
  keeps_ofExcept.2 trivial

/-- The version in a numbered row is followed by the next number. -/
theorem nextVersion_of_isNumbered {row : Row} (h : IsNumbered row) :
    nextVersion row = .ok (.int (versionOf row + 1)) := by
  unfold nextVersion versionOf
  rcases h with h | ⟨n, h⟩
  · rw [h]
    rfl
  · rw [h]
    by_cases hn : n = 0
    · subst hn
      rfl
    · simp [Json.truthy, hn]

theorem conversation_conducted (now : Moment) (id : String) :
    Conducted q left (conversation now id) :=
  conducted_put trivial fun _ _ => conducted_ofExcept _

theorem create_conducted (now : Moment) (c : Conversation) :
    Conducted q left (create now c) := by
  refine conducted_put (fun _ => isNumbered_of_find? (n := 1) rfl) fun rows _ => ?_
  cases rows with
  | nil => exact trivial
  | cons row rows => exact conducted_ofExcept _

theorem save_conducted (now : Moment) (c : Conversation) (expected : Int) :
    Conducted (.save c expected) left (save now c expected) := by
  refine conducted_put ⟨rfl, expected + 1, ?_, rfl, rfl, .save c expected rfl rfl rfl⟩
    fun rows _ => ?_
  · simp [Conversation.changes, Dictionary.keys]
  · cases rows with
    | nil => exact Keeps.andThen (conversation_conducted now c.id) fun _ _ _ => trivial
    | cons row rows => exact conducted_ofExcept _

theorem deactivateRows_conducted (now : Moment) (contact : Contact) {rows : List Row}
    (h : ∀ row ∈ rows, IsNumbered row) :
    Conducted (.deactivate contact) rows (deactivateRows now rows) := by
  induction rows with
  | nil => exact trivial
  | cons row rows ih =>
    obtain ⟨hrow, hrows⟩ := List.forall_mem_cons.1 h
    unfold deactivateRows
    rw [nextVersion_of_isNumbered hrow]
    refine conducted_put ⟨rfl, versionOf row + 1, ?_, rfl, rfl,
      .deactivate contact row rows rfl rfl rfl rfl⟩ fun _ _ => ?_
    · simp [Dictionary.keys]
    · exact Keeps.andThen (ih hrows) fun _ _ _ => trivial

theorem requests_conducted (now : Moment) (q : Ask) : Conducted q [] (requests now q) := by
  cases q with
  | create c => exact create_conducted now c
  | save c expected => exact save_conducted now c expected
  | deactivate contact =>
    exact conducted_put trivial fun rows hrows => deactivateRows_conducted now contact (hrows rfl)
  | conversation id => exact conversation_conducted now id
  | append e =>
    refine conducted_put (fun h => ?_) fun _ _ => trivial
    exact absurd h (by decide)
  | _ => exact conducted_put trivial fun _ _ => conducted_ofExcept _

/-- A save changes the rows that have the expected version, and fails where there are none. -/
theorem save_fails (now : Moment) (c : Conversation) (expected : Int) :
    ∃ next, save now c expected = .ask (.update conversationTable
        { c with version := expected + 1, updatedAt := now }.changes
        [.equal "id" (.str c.id), .equal "version" (.int expected)]) next ∧
      (next [] : Requests Conversation).Yields fun r => ∃ e, r = .error e := by
  have hfails : (conversation now c.id >>= fun found =>
      (fail (.conflict c.id expected (found.map (·.version))) : Requests Conversation)).Yields
        fun r => ∃ e, r = .error e := by
    refine yields_bind.2 ((yields_true _).mono fun found _ => ?_)
    cases found <;> exact ⟨_, rfl⟩
  exact ⟨_, rfl, hfails⟩

end Store.Tabular

end Parley
