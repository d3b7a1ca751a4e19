import Parley.Failure

/-!
Reading a JSON value as something of the domain.

A reading ends with a value, with the list of everything that is wrong, or with a failure that
leaves nothing to report about the rest. Parts are read side by side (`Reading.both`): the issues of
both are kept in order, and a failure of either is the failure of the whole.
-/

namespace Parley

open Schema

/-- What became of reading a value. -/
inductive Reading (α : Type) where
  | ok (value : α)
  | rejected (issues : List Issue)
  | failed (failure : Failure)
  deriving Repr

namespace Reading

variable {α β γ : Type}

/-- The reading with its value changed. -/
def map (f : α → β) : Reading α → Reading β
  | ok a => ok (f a)
  | rejected issues => rejected issues
  | failed failure => failed failure

/-- Two parts read side by side. -/
def both (x : Reading α) (y : Reading β) : Reading (α × β) :=
  match x, y with
  | failed failure, _ => failed failure
  | _, failed failure => failed failure
  | ok a, ok b => ok (a, b)
  | ok _, rejected issues => rejected issues
  | rejected issues, ok _ => rejected issues
  | rejected first, rejected second => rejected (first ++ second)

/-- Reads a part and applies what the first reading gave to it. -/
def apply (f : Reading (α → β)) (x : Reading α) : Reading β := (both f x).map fun (f, a) => f a

instance : Applicative Reading where
  pure := ok
  map := map
  seq f x := apply f (x ())

/-- Goes on with the value read; issues and failures end the reading. -/
def andThen (x : Reading α) (f : α → Reading β) : Reading β :=
  match x with
  | ok a => f a
  | rejected issues => rejected issues
  | failed failure => failed failure

/-- The reading as seen from further out. -/
def under (step : PathStep) : Reading α → Reading α
  | ok a => ok a
  | rejected issues => rejected (issues.map (·.under step))
  | failed failure => failed failure

/-- A single issue with the value itself. -/
def issue (kind : IssueKind) : Reading α := rejected [⟨[], kind⟩]

/-- Readings side by side, in order. -/
def all : List (Reading α) → Reading (List α)
  | [] => ok []
  | x :: xs => (both x (all xs)).map fun (a, as) => a :: as

/-- The value read, or the cause why there is none. -/
def toExcept : Reading α → Except Failure α
  | ok a => .ok a
  | rejected issues => .error (.rejected issues)
  | failed failure => .error failure

@[simp] theorem toExcept_ok (a : α) : (ok a : Reading α).toExcept = .ok a := rfl

@[simp] theorem both_ok (a : α) (b : β) : both (ok a) (ok b) = ok (a, b) := rfl

end Reading

end Parley
