/-!
What is said when, as it was written down beforehand.

The lines of a script are said in order; the last one is said again as often as needed.
-/

namespace Parley.Rehearsal

/-- The lines that are still to be said. -/
abbrev Script (α : Type) := List α

/-- The next line, `usual` where there is none, and the script afterwards. -/
def Script.next {α : Type} (usual : α) : Script α → α × Script α
  | [] => (usual, [])
  | [last] => (last, [last])
  | line :: rest => (line, rest)

end Parley.Rehearsal
