import Parley.Json.Value
import Parley.Text.Digit

/-!
Reading JSON text.

The format is the standard one with three extensions: `NaN`, `Infinity` and `-Infinity` are numbers.
A fault is reported where it was found, as the number of characters not yet read there; `ReadFault`
turns it into a position from the front, with line and column. Whole numbers are limited to 4300
digits.
-/

namespace Parley.Json

open Number Text

/-- What can be wrong with a JSON text. -/
inductive Fault where
  | expectingValue
  | expectingName
  | expectingColon
  | expectingComma
  | unterminatedText
  | controlCharacter
  | badEscape
  | badCodeEscape
  | trailingData
  | byteOrderMark
  deriving DecidableEq, Repr

/-- The wording of a fault. -/
def Fault.message : Fault → String
  | .expectingValue => "Expecting value"
  | .expectingName => "Expecting property name enclosed in double quotes"
  | .expectingColon => "Expecting ':' delimiter"
  | .expectingComma => "Expecting ',' delimiter"
  | .unterminatedText => "Unterminated string starting at"
  | .controlCharacter => "Invalid control character at"
  | .badEscape => "Invalid \\escape"
  | .badCodeEscape => "Invalid \\uXXXX escape"
  | .trailingData => "Extra data"
  | .byteOrderMark => "Unexpected UTF-8 BOM (decode using utf-8-sig)"

/-- A fault and the place where it was found: characters before it, line and column from one. -/
structure FaultAt where
  fault : Fault
  position : Nat
  line : Nat
  column : Nat
  deriving DecidableEq, Repr

/-- The wording of a fault with its place. -/
def FaultAt.message (f : FaultAt) : String :=
  f.fault.message ++ ": line " ++ natText f.line ++ " column " ++ natText f.column ++ " (char "
    ++ natText f.position ++ ")"

/-- Why a text could not be read as JSON. -/
inductive ReadError where
  /-- A fault with this many characters left to read. -/
  | fault (fault : Fault) (left : Nat)
  /-- A whole number with more digits than allowed. -/
  | tooManyDigits (digits : Nat)
  deriving DecidableEq, Repr

/-- The largest number of digits of a whole number. -/
def maxIntDigits : Nat := 4300

/-- White space between tokens. -/
def isSpace (c : Char) : Bool := c == ' ' || c == '\t' || c == '\n' || c == '\r'

/-- Drops white space. -/
def skip (cs : List Char) : List Char := cs.dropWhile isSpace

/-- Reports a fault in front of the rest of the text. -/
def faultAt {α : Type} (f : Fault) (rest : List Char) : Except ReadError α :=
  .error (.fault f rest.length)

/-- The value of a hexadecimal digit. -/
def hexValue? (c : Char) : Option Nat :=
  if '0' ≤ c ∧ c ≤ '9' then some (c.toNat - 48)
  else if 'a' ≤ c ∧ c ≤ 'f' then some (c.toNat - 87)
  else if 'A' ≤ c ∧ c ≤ 'F' then some (c.toNat - 55)
  else none

/-- The number written by four hexadecimal digits at the front. -/
def hexCode? : List Char → Option (Nat × List Char)
  | a :: b :: c :: d :: rest => do
    let a ← hexValue? a
    let b ← hexValue? b
    let c ← hexValue? c
    let d ← hexValue? d
    some (((a * 16 + b) * 16 + c) * 16 + d, rest)
  | _ => none

/-- The second half of a character beyond the first plane, when it follows as an escape that is not
the end of the text. -/
def lowHalf? (high : Nat) : List Char → Option (Char × List Char)
  | '\\' :: 'u' :: rest =>
    match hexCode? rest with
    | some (low, rest) =>
      if 0xDC00 ≤ low ∧ low ≤ 0xDFFF ∧ rest ≠ [] then
        some (Char.ofNat (0x10000 + (high - 0xD800) * 0x400 + (low - 0xDC00)), rest)
      else none
    | none => none
  | _ => none

/-- The character that a letter stands for behind a backslash. -/
def escaped? : Char → Option Char
  | '"' => some '"'
  | '\\' => some '\\'
  | '/' => some '/'
  | 'b' => some '\x08'
  | 'f' => some '\x0c'
  | 'n' => some '\n'
  | 'r' => some '\r'
  | 't' => some '\t'
  | _ => none

/-- The rest of a text in quotes; `opening` counts the characters from its opening mark on, `acc` is
what was read, last character first. A half of a character that stands alone becomes the replacement
character. -/
def readText (opening : Nat) :
    (fuel : Nat) → List Char → List Char → Except ReadError (String × List Char)
  | 0, _, _ => .error (.fault .unterminatedText opening)
  | _ + 1, _, [] => .error (.fault .unterminatedText opening)
  | fuel + 1, acc, c :: cs =>
    if c = '"' then .ok (String.ofList acc.reverse, cs)
    else if c = '\\' then
      match cs with
      | [] => .error (.fault .unterminatedText opening)
      | 'u' :: code =>
        -- the closing mark has to follow the four digits somewhere
        if code.length < 5 then .error (.fault .badCodeEscape (code.length + 1))
        else match hexCode? code with
          | none => .error (.fault .badCodeEscape (code.length + 1))
          | some (n, rest) =>
            if 0xD800 ≤ n ∧ n ≤ 0xDBFF then
              match lowHalf? n rest with
              | some (wide, rest) => readText opening fuel (wide :: acc) rest
              | none => readText opening fuel ('\uFFFD' :: acc) rest
            else if 0xDC00 ≤ n ∧ n ≤ 0xDFFF then readText opening fuel ('\uFFFD' :: acc) rest
            else readText opening fuel (Char.ofNat n :: acc) rest
      | e :: rest => match escaped? e with
        | some x => readText opening fuel (x :: acc) rest
        | none => .error (.fault .badEscape (rest.length + 2))
    else if c.toNat < 0x20 then .error (.fault .controlCharacter (cs.length + 1))
    else readText opening fuel (c :: acc) cs

/-- The digits at the front and what follows them. -/
def spanDigits (cs : List Char) : List Char × List Char :=
  (cs.takeWhile isAsciiDigit, cs.dropWhile isAsciiDigit)

/-- The digits of a fraction, where a point with a digit behind it follows. -/
def readFraction : List Char → List Char × List Char
  | '.' :: c :: rest => if isAsciiDigit c then spanDigits (c :: rest) else ([], '.' :: c :: rest)
  | cs => ([], cs)

/-- An exponent, where the letter is followed by digits with or without a sign. -/
def readExponent (cs : List Char) : Option Int × List Char :=
  match cs with
  | e :: rest =>
    if e = 'e' || e = 'E' then
      let (negative, digits) := match rest with
        | '-' :: ds => (true, ds)
        | '+' :: ds => (false, ds)
        | ds => (false, ds)
      let (ds, rest) := spanDigits digits
      if ds.isEmpty then (none, cs)
      else
        let n : Int := (digitsValue ds : Nat)
        (some (if negative then -n else n), rest)
    else (none, cs)
  | [] => (none, [])

/-- The exponents at which every number of at most `digits` digits is nought or infinite: a bound
for exponents that are written with many digits. -/
def clampExponent (digits : Nat) (e : Int) : Int :=
  let bound : Int := (digits : Int) + 400
  if bound < e then bound else if e < -bound then -bound else e

/-- A number at the front: a whole number unless a fraction or an exponent follows. -/
def readNumber (start : List Char) : Except ReadError (Json × List Char) :=
  let (negative, cs) := match start with
    | '-' :: cs => (true, cs)
    | cs => (false, cs)
  let (whole, rest) := match cs with
    | '0' :: rest => (['0'], rest)
    | cs => spanDigits cs
  if whole.isEmpty then faultAt .expectingValue start
  else
    let (fraction, rest) := readFraction rest
    let (exponent, rest) := readExponent rest
    if fraction.isEmpty && exponent.isNone then
      if maxIntDigits < whole.length then .error (.tooManyDigits whole.length)
      else
        let n : Int := (digitsValue whole : Nat)
        .ok (.int (if negative then -n else n), rest)
    else
      let digits := whole ++ fraction
      let e := clampExponent digits.length (exponent.getD 0)
      .ok (.float (.ofDecimal negative (digitsValue digits) (e - fraction.length)), rest)

/-- Strips a word from the front. -/
def word? : (word cs : List Char) → Option (List Char)
  | [], cs => some cs
  | _ :: _, [] => none
  | w :: ws, c :: cs => if w = c then word? ws cs else none

/-- The values that are written as words. -/
def words : List (List Char × Json) := [
  ("null".toList, .null), ("true".toList, .bool true), ("false".toList, .bool false),
  ("NaN".toList, .float .nan), ("Infinity".toList, .float (.infinity false)),
  ("-Infinity".toList, .float (.infinity true))]

/-- A value that is written as a word, at the front. -/
def readWord? (cs : List Char) : Option (Json × List Char) :=
  words.findSome? fun (w, v) => (word? w cs).map (v, ·)

mutual

/-- A value at the front. -/
def readValue : (fuel : Nat) → List Char → Except ReadError (Json × List Char)
  | 0, cs => faultAt .expectingValue cs
  | _ + 1, [] => faultAt .expectingValue []
  | fuel + 1, c :: cs =>
    if c = '"' then
      (readText (cs.length + 1) (cs.length + 1) [] cs).map fun (s, rest) => (.str s, rest)
    else if c = '[' then
      match skip cs with
      | ']' :: rest => .ok (.arr [], rest)
      | rest => (readItems fuel [] rest).map fun (xs, rest) => (.arr xs, rest)
    else if c = '\x7b' then
      match skip cs with
      | '\x7d' :: rest => .ok (.obj [], rest)
      | rest => (readMembers fuel [] rest).map fun (ms, rest) => (.obj ms, rest)
    else match readWord? (c :: cs) with
      | some (v, rest) => .ok (v, rest)
      | none => readNumber (c :: cs)

/-- The items of an array up to its closing bracket; `acc` holds those read, last one first. -/
def readItems : (fuel : Nat) → List Json → List Char → Except ReadError (List Json × List Char)
  | 0, _, cs => faultAt .expectingValue cs
  | fuel + 1, acc, cs => do
    let (v, rest) ← readValue fuel cs
    match skip rest with
    | ']' :: rest => .ok ((v :: acc).reverse, rest)
    | ',' :: rest => readItems fuel (v :: acc) (skip rest)
    | rest => faultAt .expectingComma rest

/-- The members of an object up to its closing brace. -/
def readMembers : (fuel : Nat) → Fields → List Char → Except ReadError (Fields × List Char)
  | 0, _, cs => faultAt .expectingName cs
  | fuel + 1, acc, cs =>
    match cs with
    | '"' :: name => do
      let (key, rest) ← readText (name.length + 1) (name.length + 1) [] name
      match skip rest with
      | ':' :: rest =>
        let (v, rest) ← readValue fuel (skip rest)
        match skip rest with
        | '\x7d' :: rest => .ok (Dictionary.put acc key v, rest)
        | ',' :: rest => readMembers fuel (Dictionary.put acc key v) (skip rest)
        | rest => faultAt .expectingComma rest
      | rest => faultAt .expectingColon rest
    | cs => faultAt .expectingName cs

end

/-- A whole text: one value with white space around it. -/
def readChars (cs : List Char) : Except ReadError Json :=
  match cs with
  | '\uFEFF' :: _ => faultAt .byteOrderMark cs
  | cs => do
    let (v, rest) ← readValue (cs.length + 1) (skip cs)
    match skip rest with
    | [] => .ok v
    | rest => faultAt .trailingData rest

/-- The place of a fault in a text, from the number of characters left to read. -/
def locate (cs : List Char) (fault : Fault) (left : Nat) : FaultAt :=
  let before := cs.take (cs.length - left)
  ⟨fault, before.length, before.count '\n' + 1,
    (before.reverse.takeWhile (· != '\n')).length + 1⟩

/-- Why reading a text failed, with the place of the fault. -/
inductive Unreadable where
  | fault (f : FaultAt)
  | tooManyDigits (digits : Nat)
  deriving DecidableEq, Repr

/-- The wording of a failure to read. -/
def Unreadable.message : Unreadable → String
  | .fault f => f.message
  | .tooManyDigits digits =>
    "Exceeds the limit (" ++ natText maxIntDigits
      ++ " digits) for integer string conversion: value has " ++ natText digits
      ++ " digits; use sys.set_int_max_str_digits() to increase the limit"

/-- Reads a JSON text. -/
def read (s : String) : Except Unreadable Json :=
  let cs := s.toList
  match readChars cs with
  | .ok v => .ok v
  | .error (.fault f left) => .error (.fault (locate cs f left))
  | .error (.tooManyDigits digits) => .error (.tooManyDigits digits)

example : (read "[1, -0.5e1, \"\\u00e9\"]").toOption
    = some (.arr [.int 1, .float (.ofInt (-5)), .str "é"]) := by decide +kernel

example : (match read "[1,\n 2" with | .error e => some e | .ok _ => none)
    = some (.fault ⟨.expectingComma, 6, 2, 3⟩) := by decide +kernel

end Parley.Json
