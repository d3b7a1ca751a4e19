import Parley.Proofs.Flow.Rows
import Parley.Proofs.Store.Agreement

/-!
# Flows in tables

A company's flows are read from the rows that it has enabled, oldest first (`Tabular.offered`). A
row that is rejected is passed over. One with an obstacle is not: the question fails with it,
whatever the other rows hold (`Tabular.run_enabledFlows`).

The flow of an id is what the first row of the company with this id holds. Where this row cannot be
read, be it rejected or with an obstacle, the question fails (`Tabular.run_flow`).
-/

namespace Parley.Store.Tabular

open Parley.Flow (ofRow rowObstacle? ofRow_of_obstacle ofRow_of_clear)
open Shared (rows_select)

/-- The rows of the flows that a company can start, oldest first. -/
def offered (tenant : String) (db : Database) : List Row :=
  ((db.rows flowTable).filter fun row =>
      (row.cell "company_id").same (.str tenant) && (row.cell "is_active").same (.bool true)).mergeSort
    fun a b => (a.cell "created_at").precedes (b.cell "created_at")

theorem isPassedOver_of_obstacle {row : Row} {e : Failure} (h : rowObstacle? row = some e) :
    isPassedOver e = false := by
  have hkind : ∀ v e, Flow.obstacle? v = some e → isPassedOver e = false := by
    intro v e h
    unfold Flow.obstacle? at h
    split at h
    all_goals first
      | cases h
      | split at h
    all_goals cases h
    all_goals rfl
  rcases Option.or_eq_some_iff.1 h with h | ⟨-, h⟩ <;> exact hkind _ _ h

/-- Rows are read one after the other, up to the first obstacle. -/
theorem readable_eq {rows : List Row} (hid : ∀ row ∈ rows, Dictionary.has row "id" = true) :
    readable rows = match rows.findSome? rowObstacle? with
      | some e => .error e
      | none => .ok (rows.filterMap fun row => (ofRow row).toOption) := by
  induction rows with
  | nil => rfl
  | cons row rows ih =>
    have hrow := hid row List.mem_cons_self
    have ih := ih fun r hr => hid r (List.mem_cons_of_mem _ hr)
    unfold readable
    rw [List.findSome?_cons, List.filterMap_cons]
    cases hobstacle : rowObstacle? row with
    | some e =>
      rw [ofRow_of_obstacle hrow hobstacle]
      simp [isPassedOver_of_obstacle hobstacle]
    | none =>
      rcases ofRow_of_clear hrow hobstacle with ⟨f, hf⟩ | ⟨issues, hissues⟩
      · rw [hf, ih]
        dsimp only
        cases rows.findSome? rowObstacle? <;> rfl
      · rw [hissues]
        show readable rows = _
        exact ih

/-- The flows that a company can start are those of its rows that can be read, unless one of the
rows has an obstacle. Nothing is written. -/
theorem run_enabledFlows (now : Moment) (tenant : String) {db : Database}
    (hid : ∀ row ∈ db.rows flowTable, Dictionary.has row "id" = true) :
    (answer now (.enabledFlows tenant) db).1 =
        (match (offered tenant db).findSome? rowObstacle? with
          | some e => .error e
          | none => .ok ((offered tenant db).filterMap fun row => (ofRow row).toOption)) ∧
      ∀ table, (answer now (.enabledFlows tenant) db).2.rows table = db.rows table := by
  have hrun : answer now (.enabledFlows tenant) db = (readable (offered tenant db),
      (db.answer (.select flowTable [.equal "company_id" (.str tenant),
        .equal "is_active" (.bool true)] (some "created_at"))).2) := by
    show Database.run (Database.put _ >>= _) db = _
    rw [run_put, run_ofExcept, answer_ordered]
    congr 2
    unfold offered
    congr 2
    funext row
    simp [Database.passes, Filter.holds]
  have hoffered : ∀ row ∈ offered tenant db, Dictionary.has row "id" = true := fun row hrow =>
    hid row (List.mem_of_mem_filter (List.mem_mergeSort.1 hrow))
  rw [hrun]
  dsimp only
  exact ⟨readable_eq hoffered, fun table => rows_select ..⟩

end Parley.Store.Tabular
