import Parley.Flow.Reader
import Parley.Table.Database

/-!
Flows as rows of a database.
-/

namespace Parley.Flow

/-- The flow in a row. -/
def ofRow (row : Row) : Except Failure Flow := do
  let id ← row.require "id"
  let list (column : String) : Json := (row.cell column).orElse (.arr [])
  (read (.obj [("id", id), ("tenant_id", row.cell "company_id"), ("name", row.cell "name"),
    ("enabled", (Dictionary.find? row "is_active").getD (.bool true)),
    ("trigger_keywords", list "triggers"), ("nodes", list "nodes"),
    ("edges", list "edges")])).toExcept

end Parley.Flow
