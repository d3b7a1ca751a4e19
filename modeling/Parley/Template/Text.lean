import Parley.Json.Listing
import Parley.Json.Writer
import Parley.Text.Blank
import Parley.Text.Letter

/-!
Texts with slots.

A slot is a name between double braces, with or without blanks around it. `scan` cuts a text into
slots and the characters between them, once and from left to right; `render` then puts the variables
in. A slot whose variable is missing or null stays as it was written.
-/

namespace Parley.Template

open Text

/-- A piece of a text with slots. -/
inductive Piece where
  | char (c : Char)
  /-- A slot: the name in it and the slot as it was written. -/
  | slot (name : String) (written : List Char)
  deriving DecidableEq, Repr

/-- A slot at the front of a text: the name in it and how many characters it takes up. -/
def slot? : List Char → Option (String × Nat)
  | '\x7b' :: '\x7b' :: cs =>
    let inner := cs.dropWhile isBlank
    let name := inner.takeWhile isWord
    let rest := (inner.dropWhile isWord).dropWhile isBlank
    match rest with
    | '\x7d' :: '\x7d' :: after =>
      if name.isEmpty then none else some (String.ofList name, cs.length + 2 - after.length)
    | _ => none
  | _ => none

/-- The pieces of a text; the first `skip` characters belong to a slot that was cut already. -/
def scan : (skip : Nat) → List Char → List Piece
  | _, [] => []
  | skip + 1, _ :: cs => scan skip cs
  | 0, c :: cs =>
    match slot? (c :: cs) with
    | some (name, length) => .slot name ((c :: cs).take length) :: scan (length - 1) cs
    | none => .char c :: scan 0 cs

/-- The pieces of a text. -/
def pieces (template : String) : List Piece := scan 0 template.toList

/-- A variable as text: truth values in small letters, arrays and objects as JSON. -/
def valueText : Json → String
  | .bool b => if b then "true" else "false"
  | .arr items => (Json.arr items).write
  | .obj members => (Json.obj members).write
  | v => v.text

/-- A piece with the variables put in. -/
def Piece.fill (vars : Fields) : Piece → List Char
  | .char c => [c]
  | .slot name written =>
    match Dictionary.find? vars name with
    | none | some .null => written
    | some v => (valueText v).toList

/-- A text with the variables in its slots. -/
def render (template : String) (vars : Fields) : String :=
  String.ofList ((pieces template).flatMap (Piece.fill vars))

/-- A text that may be left out, with the variables in its slots. -/
def renderOr (template : Option String) (vars : Fields) : String :=
  render (template.getD "") vars

example : render "Oi \x7b\x7b nome \x7d\x7d, \x7b\x7bx\x7d\x7d" [("nome", .str "Ana")]
    = "Oi Ana, \x7b\x7bx\x7d\x7d" := by decide +kernel

end Parley.Template
