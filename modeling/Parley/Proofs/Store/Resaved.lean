import Parley.Proofs.Store.Agreement

/-!
# Conversations saved as they were read

A conversation is read from its row with version nought where the row tells none, but it is written
over only where the version in the row is the number that was read. So a row that tells its version
as a number, or as a truth value, is written over by the conversation that was read from it, and one
that tells none, or tells it as a text, never is (`saved_over_own_version`): to save the
conversation is a conflict with the version that it has.
-/

namespace Parley

open Schema

theorem Number.Binary64.toInt?_of_isZero (x : Binary64) (h : x.isZero = true) :
    x.toInt? = some 0 := by
  cases x with
  | finite negative m e =>
    obtain rfl : m = 0 := by simpa [isZero] using h
    simp only [toInt?, Nat.zero_mul, Nat.zero_mod, Nat.zero_div]
    split <;> simp
  | _ => cases h

namespace Json

/-- What is read of a version is its number, and a value that is no number is no version. -/
theorem same_of_readWhole {v : Json} {n : Int}
    (h : (if v.truthy then readWhole v else .ok 0) = .ok n) :
    v.same (.int n) = v.number?.isSome := by
  cases v with
  | null | str _ | arr _ | obj _ => simp [same, number?]
  | bool b => cases b <;> cases h <;> rfl
  | int m =>
    have hsame : m = n := by
      by_cases hzero : m = 0
      · rw [hzero] at h ⊢
        exact Reading.ok.inj h
      · rw [if_pos (by simpa [truthy] using hzero)] at h
        exact Reading.ok.inj h
    simp [same, number?, sameNumber, hsame]
  | float x =>
    have hwhole : x.toInt? = some n := by
      by_cases hzero : x.isZero = true
      · rw [if_neg (by simpa [truthy] using hzero)] at h
        rw [x.toInt?_of_isZero hzero, Reading.ok.inj h]
      · rw [if_pos (by simpa [truthy] using hzero)] at h
        dsimp only [readWhole] at h
        cases hint : x.toInt? with
        | none =>
          rw [hint] at h
          dsimp only at h
          split at h <;> cases h
        | some m =>
          rw [hint] at h
          exact congrArg some (Reading.ok.inj h)
    simp [same, number?, sameNumber, Number.Binary64.isInt, hwhole]

end Json

namespace Conversation

variable {now : Moment} {row : Row} {c : Conversation}

theorem Says.find?_id (h : Says now row c) : Dictionary.find? row "id" = some (.str c.id) := by
  have hid := h.id
  unfold Row.require at hid
  cases hfind : Dictionary.find? row "id" with
  | none =>
    rw [hfind] at hid
    cases hid
  | some v =>
    rw [hfind] at hid
    exact congrArg some (Except.ok.inj hid)

/-- When a conversation began, as its row says; where the row does not, it begins when it is read. -/
def beginning (row : Row) (c : Conversation) (at_ : Moment) : Moment :=
  if (row.cell "created_at").truthy then c.createdAt else at_

theorem Says.readTold_beginning (h : Says now row c) (at_ : Moment) :
    readTold row "created_at" at_ Moment.read = .ok (beginning row c at_) := by
  have hcreatedAt := h.createdAt
  unfold readTold at hcreatedAt ⊢
  unfold beginning
  split
  · rwa [if_pos ‹_›] at hcreatedAt
  · rfl

/-- A row that can be read at one moment can be read at every other, with the same version. -/
theorem Says.exists_later (h : Says now row c) (later : Moment) :
    ∃ c', Says later row c' ∧ c'.version = c.version := by
  obtain ⟨updatedAt, hupdatedAt⟩ : ∃ m, readTold row "updated_at" later Moment.read = .ok m := by
    have hupdatedAt := h.updatedAt
    unfold readTold at hupdatedAt ⊢
    split
    · rw [if_pos ‹_›] at hupdatedAt
      exact ⟨_, hupdatedAt⟩
    · exact ⟨_, rfl⟩
  exact ⟨{ c with createdAt := beginning row c later, updatedAt },
    { h with createdAt := h.readTold_beginning later, updatedAt := hupdatedAt }, rfl⟩

end Conversation

namespace Store

open Tabular Shared Conversation Rehearsal.Clock

variable {db : Database} {row : Row} {id : String} {c : Conversation} {now later : Moment}

/-- The rows of conversations of an id. -/
def rowsWith (db : Database) (id : String) : List Row :=
  (db.rows conversationTable).filter (Database.passes [.equal "id" (.str id)])

theorem answer_conversation (now : Moment) (id : String) (db : Database) :
    Tabular.answer now (.conversation id) db = (first? (Conversation.ofRow now) (rowsWith db id),
      db.setRows conversationTable (db.rows conversationTable)) :=
  run_ofExcept _ _

/-- The row that is alone with an id is the one that is read. -/
theorem told_of_alone (halone : rowsWith db id = [row]) (now : Moment) :
    (Tabular.answer now (.conversation id) db).1 = (Conversation.ofRow now row).map some := by
  rw [answer_conversation, halone]
  rfl

theorem says_of_answer (halone : rowsWith db id = [row])
    (hread : (Tabular.answer now (.conversation id) db).1 = .ok (some c)) :
    Says now row c ∧ c.id = id := by
  rw [told_of_alone halone] at hread
  have hsaid : Says now row c := by
    rw [← ofRow_eq_ok_iff]
    cases hrow : Conversation.ofRow now row with
    | error e =>
      rw [hrow] at hread
      cases hread
    | ok c' =>
      rw [hrow] at hread
      exact congrArg Except.ok (Option.some.inj (Except.ok.inj hread))
  refine ⟨hsaid, ?_⟩
  have hmem : row ∈ rowsWith db id := halone ▸ List.mem_singleton_self row
  have hpass := (List.mem_filter.1 hmem).2
  simpa [Database.passes, Filter.holds, cell_of_find? hsaid.find?_id, Json.same] using hpass

/-- A change that leaves the ids alone changes the rows of an id where they stand. -/
theorem rowsWith_update {changes : Fields} (filters : List Filter)
    (hnodup : (Dictionary.keys changes).Nodup) (hid : Dictionary.find? changes "id" = none) :
    rowsWith (db.answer (.update conversationTable changes filters)).2 id =
      (rowsWith db id).map fun row =>
        if Database.passes filters row then Database.changed changes row else row := by
  unfold rowsWith
  rw [rows_update, List.filter_map]
  refine congrArg _ (List.filter_congr fun row _ => ?_)
  have hcell : (Database.changed changes row).cell "id" = row.cell "id" := by
    rw [cell_changed hnodup, hid]
    rfl
  show Database.passes _ (if _ then _ else _) = _
  split
  · simp only [Database.passes, List.all_cons, List.all_nil, Filter.holds, hcell]
  · rfl

/-- What a save over the own version of a conversation writes. -/
def resaved (later : Moment) (c : Conversation) : Conversation :=
  { c with version := c.version + 1, updatedAt := later }

/-- The filters of a save over the own version of a conversation. -/
def ownFilters (c : Conversation) : List Filter :=
  [.equal "id" (.str c.id), .equal "version" (.int c.version)]

theorem passes_ownFilters (hsaid : Says now row c) :
    Database.passes (ownFilters c) row = (row.cell "version").number?.isSome := by
  have hid : (row.cell "id").same (.str c.id) = true := by
    rw [cell_of_find? hsaid.find?_id]
    simp [Json.same]
  show ((row.cell "id").same (.str c.id) && ((row.cell "version").same (.int c.version) && true)) = _
  rw [hid, Bool.true_and, Bool.and_true]
  exact Json.same_of_readWhole hsaid.version

theorem filter_ownFilters (hsaid : Says now row c) (halone : rowsWith db c.id = [row]) :
    (db.rows conversationTable).filter (Database.passes (ownFilters c)) =
      if (row.cell "version").number?.isSome then [row] else [] := by
  have hfilter : (db.rows conversationTable).filter (Database.passes (ownFilters c)) =
      (rowsWith db c.id).filter (Database.passes (ownFilters c)) := by
    rw [rowsWith, List.filter_filter]
    refine List.filter_congr fun other _ => ?_
    simp only [ownFilters, Database.passes, List.all_cons, List.all_nil, Bool.and_true]
    cases (Filter.equal "id" (.str c.id)).holds other <;> simp
  rw [hfilter, halone, List.filter_singleton, passes_ownFilters hsaid, Bool.cond_eq_ite]

/-- What was written is read back, at any moment. -/
theorem ofRow_resaved (hsaid : Says now row c) (at_ : Moment) :
    Conversation.ofRow at_ (Database.changed (resaved later c).changes row) =
      .ok { resaved later c with createdAt := beginning row c at_ } := by
  have hupdate : ∀ column, Dictionary.find? (Database.changed (resaved later c).changes row) column =
      (Dictionary.find? (resaved later c).changes column).or (Dictionary.find? row column) :=
    Dictionary.find?_update row (nodup_changes _)
  refine ofRow_eq_ok_iff.2 (says_of_changes ?_ ?_ ?_)
  · exact require_of_find? ((hupdate "id").trans hsaid.find?_id)
  · intro column v hv
    have hchanged : Dictionary.find? (resaved later c).changes column = some v := hv
    rw [hupdate, hchanged]
    rfl
  · have hcell : (Database.changed (resaved later c).changes row).cell "created_at" =
        row.cell "created_at" := by
      unfold Row.cell
      rw [hupdate]
      rfl
    unfold readTold
    rw [hcell]
    exact hsaid.readTold_beginning at_

/-- Where the row tells its version as a number, the conversation is written over it. -/
theorem answer_save_of_number (hsaid : Says now row c) (halone : rowsWith db c.id = [row])
    (hnumber : (row.cell "version").number?.isSome = true) (later : Moment) :
    Tabular.answer later (.save c c.version) db =
        (.ok { resaved later c with createdAt := beginning row c later },
          (db.answer (saveRequest later c c.version)).2) ∧
      rowsWith (db.answer (saveRequest later c c.version)).2 c.id =
        [Database.changed (resaved later c).changes row] := by
  have hfound := filter_ownFilters hsaid halone
  rw [if_pos hnumber] at hfound
  have htold : (db.answer (saveRequest later c c.version)).1 =
      [Database.changed (resaved later c).changes row] :=
    congrArg (List.map (Database.changed (resaved later c).changes)) hfound
  constructor
  · rw [← ofRow_resaved hsaid]
    exact run_save_told htold
  · refine (rowsWith_update (ownFilters c) (nodup_changes _) rfl).trans ?_
    rw [halone, List.map_singleton, if_pos ((passes_ownFilters hsaid).trans hnumber)]
    rfl

/-- Where it does not, nothing is written, and the version that is found is the one expected. -/
theorem answer_save_of_no_number (hsaid : Says now row c) (halone : rowsWith db c.id = [row])
    (hnumber : (row.cell "version").number?.isSome = false) (later : Moment) :
    (Tabular.answer later (.save c c.version) db).1 =
        .error (.conflict c.id c.version (some c.version)) ∧
      (Tabular.answer later (.save c c.version) db).2.rows conversationTable =
        db.rows conversationTable := by
  have hfound := filter_ownFilters hsaid halone
  rw [if_neg (by rw [hnumber]; exact Bool.false_ne_true)] at hfound
  have huntold : (db.answer (saveRequest later c c.version)).1 = [] :=
    congrArg (List.map (Database.changed (resaved later c).changes)) hfound
  have hrows : (db.answer (saveRequest later c c.version)).2.rows conversationTable =
      db.rows conversationTable := by
    refine (rows_update _ _ _ _).trans ((List.map_congr_left fun other hother => if_neg ?_).trans
      (List.map_id _))
    exact List.filter_eq_nil_iff.1 hfound other hother
  -- The version that is found is read from the same row, but at the moment of the save.
  obtain ⟨c', hsaid', hversion⟩ := hsaid.exists_later later
  have hcurrent : (Tabular.answer later (.conversation c.id)
      (db.answer (saveRequest later c c.version)).2).1 = .ok (some c') := by
    rw [told_of_alone (by rw [rowsWith, hrows, ← rowsWith, halone]), ofRow_eq_ok_iff.2 hsaid']
    rfl
  have hrun : Tabular.answer later (.save c c.version) db = (.error (.conflict c.id c.version
      (some c'.version)), (Tabular.answer later (.conversation c.id)
        (db.answer (saveRequest later c c.version)).2).2) :=
    (run_save_untold huntold).trans (run_andThen hcurrent)
  rw [hrun, hversion, answer_conversation]
  refine ⟨rfl, ?_⟩
  rw [rows_setRows, if_pos rfl, hrows]

/-- A conversation that is saved as it was read, over the version that it was read with, and with no
write in between, is written, one version on, where the version in its row is a number or a truth
value; otherwise the save is a conflict with that same version, and no row changes. What was written
is read back at every moment, but that a conversation whose row does not say when it began begins
whenever it is read. -/
theorem saved_over_own_version (halone : rowsWith db id = [row])
    (hread : (Tabular.answer now (.conversation id) db).1 = .ok (some c)) (later : Moment) :
    ((row.cell "version").number?.isSome = true →
      (Tabular.answer later (.save c c.version) db).1 =
        .ok { resaved later c with createdAt := beginning row c later } ∧
      ∀ at_, (Tabular.answer at_ (.conversation id)
          (Tabular.answer later (.save c c.version) db).2).1 =
        .ok (some { resaved later c with createdAt := beginning row c at_ })) ∧
    ((row.cell "version").number?.isSome = false →
      (Tabular.answer later (.save c c.version) db).1 =
        .error (.conflict id c.version (some c.version)) ∧
      (Tabular.answer later (.save c c.version) db).2.rows conversationTable =
        db.rows conversationTable) := by
  obtain ⟨hsaid, rfl⟩ := says_of_answer halone hread
  refine ⟨fun hnumber => ?_, fun hnumber => answer_save_of_no_number hsaid halone hnumber later⟩
  obtain ⟨hsaved, hrows⟩ := answer_save_of_number hsaid halone hnumber later
  rw [hsaved]
  refine ⟨rfl, fun at_ => ?_⟩
  rw [told_of_alone hrows, ofRow_resaved hsaid]
  rfl

/-- The row of a conversation with another value in place of its version. -/
def versionedRow (version : Json) : Row := Dictionary.put talk.toRow "version" version

/-- A table with that row. -/
def versionedTable (version : Json) : Database where
  tables := [(conversationTable, [versionedRow version])]

theorem saved_over_three : rowsWith (versionedTable (.int 3)) "talk" = [versionedRow (.int 3)] ∧
    (Tabular.answer usualStart (.conversation "talk") (versionedTable (.int 3))).1 =
      .ok (some { talk with version := 3 }) ∧
    (Tabular.answer laterElsewhere (.save { talk with version := 3 } 3)
      (versionedTable (.int 3))).1 = .ok { talk with version := 4, updatedAt := laterElsewhere } := by
  have halone : rowsWith (versionedTable (.int 3)) "talk" = [versionedRow (.int 3)] := rfl
  have hread : (Tabular.answer usualStart (.conversation "talk") (versionedTable (.int 3))).1 =
      .ok (some { talk with version := 3 }) := by decide
  exact ⟨halone, hread, ((saved_over_own_version halone hread laterElsewhere).1 rfl).1⟩

/-- A row whose version is null is read with version nought, and is not saved over it. -/
theorem conflict_over_null : rowsWith (versionedTable .null) "talk" = [versionedRow .null] ∧
    (Tabular.answer usualStart (.conversation "talk") (versionedTable .null)).1 = .ok (some talk) ∧
    (Tabular.answer usualStart (.save talk talk.version) (versionedTable .null)).1 =
      .error (.conflict "talk" 0 (some 0)) := by
  refine ⟨rfl, ?_, ?_⟩ <;> decide

end Store

end Parley
