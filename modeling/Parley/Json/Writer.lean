import Parley.Json.Value
import Parley.Number.Shortest

/-!
Writing JSON text.

One blank follows every comma and every colon. Characters outside ASCII stand as themselves; quotes,
backslashes and control characters are escaped.
-/

namespace Parley.Json

open Number Text

/-- A character inside quotes. -/
def writeChar (c : Char) : List Char :=
  if c = '"' then ['\\', '"']
  else if c = '\\' then ['\\', '\\']
  else if c = '\n' then ['\\', 'n']
  else if c = '\r' then ['\\', 'r']
  else if c = '\t' then ['\\', 't']
  else if c = '\x08' then ['\\', 'b']
  else if c = '\x0c' then ['\\', 'f']
  else if c.toNat < 0x20 then
    ['\\', 'u', '0', '0', Nat.digitChar (c.toNat / 16), Nat.digitChar (c.toNat % 16)]
  else [c]

/-- A text in quotes. -/
def writeText (s : String) : String := String.ofList ('"' :: s.toList.flatMap writeChar ++ ['"'])

mutual

/-- The text of a value. -/
def write : Json → String
  | .null => "null"
  | .bool b => if b then "true" else "false"
  | .int n => intText n
  | .float x => jsonFormat.write x
  | .str s => writeText s
  | .arr [] => "[]"
  | .arr (x :: xs) => "[" ++ write x ++ writeItems xs ++ "]"
  | .obj [] => "\x7b\x7d"
  | .obj ((k, x) :: ms) => "\x7b" ++ writeText k ++ ": " ++ write x ++ writeMembers ms ++ "\x7d"

/-- The items of an array behind its first one. -/
def writeItems : List Json → String
  | [] => ""
  | x :: xs => ", " ++ write x ++ writeItems xs

/-- The members of an object behind its first one. -/
def writeMembers : List (String × Json) → String
  | [] => ""
  | (k, x) :: ms => ", " ++ writeText k ++ ": " ++ write x ++ writeMembers ms

end

example : write (.obj [("a", .arr [.int 1, .null]), ("é", .str "x\ny")])
    = "\x7b\"a\": [1, null], \"é\": \"x\\ny\"\x7d" := by decide +kernel

end Parley.Json
