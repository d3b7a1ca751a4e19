import Parley.Text.Blank
import Parley.Text.Case
import Parley.Text.Search

/-!
The ways to compare, and their spellings.
-/

namespace Parley.Condition

open Text

/-- A way to compare a field with a value. -/
inductive Operator where
  | equals
  | contains
  | greater
  | less
  | exists_
  | pattern
  deriving DecidableEq, Repr

namespace Operator

/-- The accepted spellings. -/
def spellings : List (String × Operator) := [
  ("equals", .equals), ("equal", .equals), ("eq", .equals), ("igual", .equals),
  ("igual_a", .equals),
  ("contains", .contains), ("contain", .contains), ("contem", .contains), ("inclui", .contains),
  ("greater", .greater), ("greater_than", .greater), ("gt", .greater), ("maior", .greater),
  ("maior_que", .greater),
  ("less", .less), ("less_than", .less), ("lt", .less), ("menor", .less), ("menor_que", .less),
  ("exists", .exists_), ("exist", .exists_), ("existe", .exists_), ("preenchido", .exists_),
  ("regex", .pattern), ("matches", .pattern), ("match", .pattern), ("corresponde", .pattern),
  ("padrao", .pattern)]

/-- A spelling in small letters, without blanks around it, underscores for blanks and hyphens. -/
def normalize (spelling : String) : String :=
  replaceChar '-' '_' (replaceChar ' ' '_' (lower (strip spelling)))

/-- The way to compare that a spelling stands for. -/
def ofSpelling? (spelling : String) : Option Operator := spellings.lookup (normalize spelling)

example : ofSpelling? " Maior-Que " = some .greater := by decide +kernel

end Operator

end Parley.Condition
