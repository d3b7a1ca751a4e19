import Parley.Failure
import Parley.Template.Text

/-!
JSON with slots in its texts.

The names of members are left alone. A text that is one slot and nothing else, blanks around it
apart, becomes the variable's value as it is, so that a number stays a number.
-/

namespace Parley.Template

open Text

/-- The name of the slot that a text consists of. -/
def soleSlot? (s : String) : Option String :=
  let cs := stripChars s.toList
  match slot? cs with
  | some (name, length) => if length = cs.length then some name else none
  | none => none

/-- A text inside of a payload with the variables put in. -/
def fillText (vars : Fields) (s : String) : Json :=
  match (soleSlot? s).bind (Dictionary.find? vars) with
  | none | some .null => .str (render s vars)
  | some v => v

mutual

/-- A payload with the variables put into its texts. -/
def fill (vars : Fields) : Json → Json
  | .str s => fillText vars s
  | .arr items => .arr (fillItems vars items)
  | .obj members => .obj (fillMembers vars members)
  | v => v

/-- The items of an array with the variables put in. -/
def fillItems (vars : Fields) : List Json → List Json
  | [] => []
  | v :: vs => fill vars v :: fillItems vars vs

/-- The members of an object with the variables put into their values. -/
def fillMembers (vars : Fields) : List (String × Json) → List (String × Json)
  | [] => []
  | (k, v) :: ms => (k, fill vars v) :: fillMembers vars ms

end

/-- A payload written by an author, as JSON or as text that holds JSON, with the variables put in.
There is none where nothing was written and where the text is not JSON. -/
def payload (written : Json) (vars : Fields) : Except Failure Json :=
  match written with
  | .null | .str "" => .ok .null
  | .str s =>
    match Json.read s with
    | .ok v => .ok (fill vars v)
    | .error (.fault _) => .ok .null
    | .error (.tooManyDigits digits) => .error (.tooManyDigits digits)
  | v => .ok (fill vars v)

example : fill [("age", .int 7)]
    (.obj [("a", .str " \x7b\x7bage\x7d\x7d"), ("b", .str "é \x7b\x7bage\x7d\x7d")])
    = .obj [("a", .int 7), ("b", .str "é 7")] := by decide +kernel

end Parley.Template
