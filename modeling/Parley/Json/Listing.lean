import Parley.Json.Value
import Parley.Number.Shortest
import Parley.Text.Quoted

/-!
The listing of a JSON value: how a value reads when it is shown inside a text.

Null and the truth values are the words `None`, `True` and `False`, texts stand between apostrophes,
and arrays and objects keep their brackets. `Json.text` is the listing of everything but a text, and
a text itself.
-/

namespace Parley.Json

open Number Text

mutual

/-- The listing of a value. -/
def listing : Json → String
  | .null => "None"
  | .bool b => if b then "True" else "False"
  | .int n => intText n
  | .float x => floatText x
  | .str s => quoted s
  | .arr [] => "[]"
  | .arr (x :: xs) => "[" ++ listing x ++ listingItems xs ++ "]"
  | .obj [] => "\x7b\x7d"
  | .obj ((k, x) :: ms) => "\x7b" ++ quoted k ++ ": " ++ listing x ++ listingMembers ms ++ "\x7d"

/-- The items of an array behind its first one. -/
def listingItems : List Json → String
  | [] => ""
  | x :: xs => ", " ++ listing x ++ listingItems xs

/-- The members of an object behind its first one. -/
def listingMembers : List (String × Json) → String
  | [] => ""
  | (k, x) :: ms => ", " ++ quoted k ++ ": " ++ listing x ++ listingMembers ms

end

/-- A text as it is, any other value as its listing. -/
def text : Json → String
  | .str s => s
  | v => v.listing

/-- `Json.text`, with the truth values in small letters. -/
def plainText : Json → String
  | .bool b => if b then "true" else "false"
  | v => v.text

example : listing (.obj [("a", .arr [.int 1, .null, .bool true]), ("b", .str "é")])
    = "\x7b'a': [1, None, True], 'b': 'é'\x7d" := by decide +kernel

end Parley.Json
