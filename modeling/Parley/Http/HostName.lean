import Parley.Text.Case
import Parley.Text.Digit
import Parley.Text.Letter
import Parley.Text.Search

/-!
Names of hosts with letters outside ASCII.

A label of such a name is written in ASCII: its letters of ASCII, a hyphen, and the others as
numbers in base 36 that tell how far each is from the one before, in ascending order of the letters.
How many digits a number takes adapts to the numbers before it (`Bootstring.adapt`), so that near
letters take few.
-/

namespace Parley.Http

open Text

namespace Bootstring

/-- A digit below 36: a letter, or a decimal digit from 26 on. -/
def digit (d : Nat) : Char :=
  if d < 26 then Char.ofNat ('a'.toNat + d) else Char.ofNat ('0'.toNat + (d - 26))

/-- The threshold at the place that is `place` digits in, times 36. -/
def threshold (bias place : Nat) : Nat :=
  if place ≤ bias then 1 else if bias + 26 ≤ place then 26 else place - bias

theorem one_le_threshold (bias place : Nat) : 1 ≤ threshold bias place := by
  unfold threshold
  split
  · exact Nat.le_refl 1
  · split
    · decide
    · omega

/-- The digits of a number from a place on. -/
def digits (bias place n : Nat) : List Char :=
  let t := threshold bias place
  if n < t then [digit n]
  else digit (t + (n - t) % (36 - t)) :: digits bias (place + 36) ((n - t) / (36 - t))
termination_by n
decreasing_by
  have := one_le_threshold bias place
  exact Nat.lt_of_le_of_lt (Nat.div_le_self _ _) (by omega)

/-- Divides by 35 until the number is at most 455; each time counts 36. -/
def shrink (n count : Nat) : Nat × Nat :=
  if 455 < n then shrink (n / 35) (count + 36) else (n, count)
termination_by n
decreasing_by exact Nat.div_lt_self (by omega) (by decide)

/-- The bias after a number, of `handled` letters; the first number counts less. -/
def adapt (n handled : Nat) (isFirst : Bool) : Nat :=
  let half := if isFirst then n / 700 else n / 2
  let (rest, count) := shrink (half + half / handled) 0
  count + 36 * rest / (rest + 38)

/-- How far the encoding has come. -/
structure State where
  /-- How far it is from the last letter that was written. -/
  distance : Nat := 0
  bias : Nat := 72
  /-- How many letters are written. -/
  handled : Nat
  out : List Char := []

/-- Passes a letter of the label while letters with the code `code` are written. -/
def pass (plain code : Nat) (s : State) (c : Char) : State :=
  if c.toNat < code then { s with distance := s.distance + 1 }
  else if c.toNat = code then {
    distance := 0, bias := adapt s.distance (s.handled + 1) (s.handled == plain)
    handled := s.handled + 1, out := s.out ++ digits s.bias 36 s.distance }
  else s

/-- Writes the letters of the codes, which ascend; `next` is the first code not written yet. -/
def encodeCodes (label : List Char) (plain : Nat) :
    (codes : List Nat) → (next : Nat) → State → List Char
  | [], _, s => s.out
  | code :: codes, next, s =>
    let s := { s with distance := s.distance + (code - next) * (s.handled + 1) }
    let s := label.foldl (pass plain code) s
    encodeCodes label plain codes (code + 1) { s with distance := s.distance + 1 }

/-- A label in ASCII, without the mark that tells it apart. -/
def encode (label : List Char) : List Char :=
  let plain := label.filter (·.toNat < 0x80)
  let codes := ((label.map Char.toNat).filter (0x80 ≤ ·)).eraseDups.mergeSort
  (if plain.isEmpty then [] else plain ++ ['-'])
    ++ encodeCodes label plain.length codes 0x80 { handled := plain.length }

example : encode "bücher".toList = "bcher-kva".toList := by decide +kernel

end Bootstring

/-- The points between labels. -/
def isPoint (c : Char) : Bool := ['.', '\u3002', '\uFF0E', '\uFF61'].contains c

/-- The labels of a name. -/
def labels (cs : List Char) : List (List Char) :=
  splitAtChar '.' (cs.map fun c => if isPoint c then '.' else c)

/-- Whether a letter may stand in a label: a small letter or a digit, of any script, or a hyphen. -/
def isLabelChar (c : Char) : Bool :=
  c == '-' || (isAlphanumeric c && lower (String.ofList [c]) == String.ofList [c])

/-- A label as it is written in ASCII; its hyphens stand inside it, and not third and fourth. -/
def labelText? (label : List Char) : Option (List Char) :=
  let hyphens := label.head? = some '-' || label.getLast? = some '-'
    || (label.drop 2).take 2 = ['-', '-']
  if label.isEmpty || hyphens || !label.all isLabelChar then none else
    let written := if label.all (·.toNat < 0x80) then label
      else "xn--".toList ++ Bootstring.encode label
    if written.length ≤ 63 then some written else none

/-- A name in ASCII; a point at its end stays. -/
def hostName? (cs : List Char) : Option String :=
  let parts := labels cs
  let ends := 1 < parts.length && parts.getLast? = some []
  let longest := if ends then 254 else 253
  match (if ends then parts.dropLast else parts).mapM labelText? with
  | none => none
  | some written =>
    let text := join "." (written.map String.ofList) ++ if ends then "." else ""
    if text.length ≤ longest then some text else none

end Parley.Http
