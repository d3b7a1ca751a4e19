import Parley.Json.Value
import Parley.Number.Binary64
import Parley.Schema.Reading
import Parley.Text.Case
import Parley.Text.Digit

/-!
Reading single values: texts, truth values, numbers.

Truth values and numbers may be written as texts. A number is a sign, digits with a point and an
exponent, or one of the words for infinity and the undefined number; single underscores may stand
between the characters.
-/

namespace Parley.Schema

open Number Text

/-- A text. -/
def readText : Json → Reading String
  | .str s => .ok s
  | _ => .issue .notText

/-- Null, or a value read by `f`. -/
def readNullable {α : Type} (f : Json → Reading α) : Json → Reading (Option α)
  | .null => .ok none
  | v => (f v).map some

/-- A text or null. -/
def readNullableText : Json → Reading (Option String) := readNullable readText

/-- The words for the truth values, in small letters. -/
def truthWord? (s : String) : Option Bool :=
  if ["0", "off", "f", "false", "n", "no"].contains s then some false
  else if ["1", "on", "t", "true", "y", "yes"].contains s then some true
  else none

/-- A capital letter among the 26 made small. -/
def asciiSmall (c : Char) : Char := if 'A' ≤ c ∧ c ≤ 'Z' then Char.ofNat (c.toNat + 32) else c

/-- The 26 letters made small. -/
def asciiLower (s : String) : String := String.ofList (s.toList.map asciiSmall)

/-- The truth value that a number stands for. -/
def truthOfInt (n : Int) : Reading Bool :=
  if n = 0 then .ok false else if n = 1 then .ok true else .issue .badTruth

/-- A truth value: as such, as one of the words for it, or as nought or one. -/
def readTruth : Json → Reading Bool
  | .bool b => .ok b
  | .str s => match truthWord? (asciiLower s) with
    | some b => .ok b
    | none => .issue .badTruth
  | .int n => truthOfInt n
  | .float x => match x.toInt? with
    | some n => if n.natAbs < Nat.pow 2 63 then truthOfInt n else .issue .notTruth
    | none => .issue .notTruth
  | _ => .issue .notTruth

/-- White space around a number written as text. -/
def isNumberSpace (c : Char) : Bool :=
  let n := c.toNat
  (9 ≤ n && n ≤ 13) || n == 0x20 || n == 0x85 || n == 0xA0 || n == 0x1680
    || (0x2000 ≤ n && n ≤ 0x200A) || n == 0x2028 || n == 0x2029 || n == 0x202F || n == 0x205F
    || n == 0x3000

/-- Drops white space at both ends. -/
def trimNumber (cs : List Char) : List Char :=
  ((cs.dropWhile isNumberSpace).reverse.dropWhile isNumberSpace).reverse

/-- Underscores dropped, where none stands at an end or next to another. -/
def dropUnderscores? (cs : List Char) : Option (List Char) :=
  if cs.head? = some '_' || cs.getLast? = some '_' || doubled cs then none
  else some (cs.filter (· != '_'))
where
  /-- Whether two underscores stand next to each other. -/
  doubled : List Char → Bool
  | '_' :: '_' :: _ => true
  | _ :: cs => doubled cs
  | [] => false

/-- A sign at the front: whether it is a minus, and the rest. -/
def takeSign : List Char → Bool × List Char
  | '-' :: cs => (true, cs)
  | '+' :: cs => (false, cs)
  | cs => (false, cs)

/-- An exponent and nothing behind it. -/
def exponent? : List Char → Option Int
  | [] => some 0
  | e :: cs =>
    if e = 'e' || e = 'E' then
      let (negative, ds) := takeSign cs
      if ds.isEmpty || !ds.all isAsciiDigit then none
      else
        let n : Int := (digitsValue ds : Nat)
        some (if negative then -n else n)
    else none

/-- Keeps an exponent within the bounds beyond which every number is nought or infinite. -/
def clampExponent (digits : Nat) (e : Int) : Int :=
  let bound : Int := (digits : Int) + 400
  if bound < e then bound else if e < -bound then -bound else e

/-- A decimal number that takes up the whole text. -/
def decimal? (cs : List Char) : Option Binary64 :=
  let (negative, body) := takeSign cs
  let name := asciiLower (String.ofList body)
  if name = "inf" || name = "infinity" then some (.infinity negative)
  else if name = "nan" then some .nan
  else
    let whole := body.takeWhile isAsciiDigit
    let rest := body.dropWhile isAsciiDigit
    let (fraction, rest) := match rest with
      | '.' :: rest => (rest.takeWhile isAsciiDigit, rest.dropWhile isAsciiDigit)
      | rest => ([], rest)
    let digits := whole ++ fraction
    if digits.isEmpty then none
    else (exponent? rest).map fun e =>
      .ofDecimal negative (digitsValue digits) (clampExponent digits.length e - fraction.length)

/-- A number: as such, as a truth value, or written as text. -/
def readNumber : Json → Reading Binary64
  | .float x => .ok x
  | .int n => match Binary64.ofInt n with
    | .infinity _ => .issue .notNumber
    | x => .ok x
  | .bool b => .ok (.ofInt (if b then 1 else 0))
  | .str s =>
    let cs := trimNumber s.toList
    match decimal? cs, (dropUnderscores? cs).bind decimal? with
    | some x, _ => .ok x
    | none, some x => .ok x
    | none, none => .issue .badNumber
  | _ => .issue .notNumber

/-- The whole number written by a text: a sign, digits, and at most a fraction of noughts. -/
def wholeText? (cs : List Char) : Option Int :=
  let (negative, body) := takeSign cs
  let whole := body.takeWhile isAsciiDigit
  let rest := body.dropWhile isAsciiDigit
  let plain := match rest with
    | [] => true
    | '.' :: zeros => !zeros.isEmpty && zeros.all (· == '0')
    | _ => false
  if whole.isEmpty || !plain then none
  else
    let n : Int := (digitsValue whole : Nat)
    some (if negative then -n else n)

/-- A whole number: as such, as a number without a fraction, as a truth value, or written out. -/
def readWhole : Json → Reading Int
  | .int n => .ok n
  | .bool b => .ok (if b then 1 else 0)
  | .float x => match x.toInt? with
    | some n => .ok n
    | none => if x.isFinite then .issue .fractionalWhole else .issue .infiniteWhole
  | .str s =>
    let cs := trimNumber s.toList
    if 4300 < cs.length then .issue .wholeTooLong
    else match (dropUnderscores? cs).bind wholeText? with
      | some n => .ok n
      | none => .issue .badWhole
  | _ => .issue .notWhole

/-- The members of an object. -/
def readObject : Json → Reading Fields
  | .obj members => .ok members
  | _ => .issue .notObject

/-- The items of an array, each read by `f`. -/
def readList {α : Type} (f : Json → Reading α) : Json → Reading (List α)
  | .arr items => .all (items.zipIdx.map fun (v, i) => (f v).under (.index i))
  | _ => .issue .notList

/-- The first of several names that is present, with its value. -/
def pick? (fields : Fields) (names : List String) : Option (String × Json) :=
  names.findSome? fun name => (Dictionary.find? fields name).map (name, ·)

/-- A value that has to be there under one of several names; the first name is the one it is missed
under. -/
def required {α : Type} (fields : Fields) (names : List String) (f : Json → Reading α) :
    Reading α :=
  match pick? fields names with
  | some (name, v) => (f v).under (.key name)
  | none => (Reading.issue .missing).under (.key (names.headD ""))

/-- A value that may be left out, under one of several names. -/
def optional {α : Type} (fields : Fields) (names : List String) (default : α)
    (f : Json → Reading α) : Reading α :=
  match pick? fields names with
  | some (name, v) => (f v).under (.key name)
  | none => .ok default

end Parley.Schema
