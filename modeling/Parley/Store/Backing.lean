import Parley.Store.Ledger
import Parley.Store.Tabular

/-!
What stands behind a store: memory or a database.
-/

namespace Parley.Store

/-- What keeps the contents of a store. -/
inductive Backing where
  | memory (ledger : Ledger)
  | database (db : Database)

namespace Backing

/-- Answers a question at a moment. -/
def answer (now : Moment) (q : Ask) : Backing → Except Failure q.Answer × Backing
  | memory ledger =>
    let (reply, ledger) := ledger.answer now q
    (reply, memory ledger)
  | database db =>
    let (reply, db) := Tabular.answer now q db
    (reply, database db)

/-- Adds a flow, where flows are kept in memory. -/
def addFlow (f : Flow) : Backing → Backing
  | memory ledger => memory (ledger.addFlow f)
  | database db => database db

/-- The database, where there is one. -/
def database? : Backing → Option Database
  | memory _ => none
  | database db => some db

end Backing

end Parley.Store
