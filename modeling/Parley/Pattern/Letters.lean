import Parley.Pattern.Basic
import Parley.Text.Blank
import Parley.Text.Case
import Parley.Text.Digit
import Parley.Text.Letter

/-!
Single characters of a pattern: classes, and letters whose case is ignored.

Where case is ignored, a character of the text is made small and compared with the small form of the
pattern's character, or with one of the small letters that share its capital.
-/

namespace Parley.Pattern

open Text

/-- Small letters that share their capital with other small letters. -/
def sameCapital : List (Nat × List Nat) := [
    (0x69, [0x131]), (0x73, [0x17F]), (0xB5, [0x3BC]), (0x131, [0x69]), (0x17F, [0x73]),
    (0x345, [0x3B9, 0x1FBE]), (0x390, [0x1FD3]), (0x3B0, [0x1FE3]), (0x3B2, [0x3D0]),
    (0x3B5, [0x3F5]), (0x3B8, [0x3D1]), (0x3B9, [0x345, 0x1FBE]), (0x3BA, [0x3F0]), (0x3BC, [0xB5]),
    (0x3C0, [0x3D6]), (0x3C1, [0x3F1]), (0x3C2, [0x3C3]), (0x3C3, [0x3C2]), (0x3C6, [0x3D5]),
    (0x3D0, [0x3B2]), (0x3D1, [0x3B8]), (0x3D5, [0x3C6]), (0x3D6, [0x3C0]), (0x3F0, [0x3BA]),
    (0x3F1, [0x3C1]), (0x3F5, [0x3B5]), (0x432, [0x1C80]), (0x434, [0x1C81]), (0x43E, [0x1C82]),
    (0x441, [0x1C83]), (0x442, [0x1C84, 0x1C85]), (0x44A, [0x1C86]), (0x463, [0x1C87]),
    (0x1C80, [0x432]), (0x1C81, [0x434]), (0x1C82, [0x43E]), (0x1C83, [0x441]),
    (0x1C84, [0x442, 0x1C85]), (0x1C85, [0x442, 0x1C84]), (0x1C86, [0x44A]), (0x1C87, [0x463]),
    (0x1C88, [0xA64B]), (0x1E61, [0x1E9B]), (0x1E9B, [0x1E61]), (0x1FBE, [0x345, 0x3B9]),
    (0x1FD3, [0x390]), (0x1FE3, [0x3B0]), (0xA64B, [0x1C88]), (0xFB05, [0xFB06]),
    (0xFB06, [0xFB05])]

/-- The small letters that share their capital with this one, itself apart. -/
def siblings (n : Nat) : List Nat := (sameCapital.lookup n).getD []

/-- The small form of a code point; the code points that are no characters have none. -/
def small (ascii : Bool) (n : Nat) : Nat :=
  if ascii then (if 65 ≤ n ∧ n ≤ 90 then n + 32 else n)
  else if n.isValidChar then (lowerSimple (Char.ofNat n)).toNat else n

/-- The capital form of a code point. -/
def capital (n : Nat) : Nat := if n.isValidChar then (upperSimple (Char.ofNat n)).toNat else n

/-- Whether a code point has a small or a capital form other than itself. -/
def hasCase (ascii : Bool) (n : Nat) : Bool :=
  if ascii then (65 ≤ n && n ≤ 90) || (97 ≤ n && n ≤ 122)
  else small false n != n || capital n != n || (upperSequences.lookup n).isSome

/-- Whether a rule speaks of a code point of the range. -/
def touches (first last : Nat) (r : CaseRule) : Bool :=
  let from_ := max first r.first
  let start := from_ + (r.step - (from_ - r.first) % r.step) % r.step
  start ≤ last && start ≤ r.last

/-- Whether some code point of the range has a small or a capital form other than itself. -/
def rangeHasCase (ascii : Bool) (first last : Nat) : Bool :=
  if ascii then (first ≤ 90 && 65 ≤ last) || (first ≤ 122 && 97 ≤ last)
  else lowerRules.any (touches first last) || upperRules.any (touches first last)
    || upperSequences.any (fun p => first ≤ p.1 && p.1 ≤ last) || (first ≤ 0x130 && 0x130 ≤ last)

/-- The code points whose small form this is. -/
def withSmall (ascii : Bool) (n : Nat) : List Nat :=
  if ascii then n :: (if 97 ≤ n ∧ n ≤ 122 then [n - 32] else [])
  else
    let sources := lowerRules.filterMap fun r =>
      let m := (n : Int) - r.shift
      if 0 ≤ m ∧ r.image? m.toNat = some n then some m.toNat else none
    (n :: (if n = 0x69 then [0x130] else []) ++ sources).filter fun m => small false m == n

/-- Whether a character belongs to a class with a letter of its own. -/
def Kind.holds (ascii : Bool) (k : Kind) (c : Char) : Bool :=
  match k with
  | .digit => if ascii then isAsciiDigit c else isDigit c
  | .blank => if ascii then c == ' ' || (9 ≤ c.toNat && c.toNat ≤ 13) else isBlank c
  | .word =>
    if ascii then isAsciiDigit c || ('a' ≤ c && c ≤ 'z') || ('A' ≤ c && c ≤ 'Z') || c == '_'
    else isWord c

/-- Whether a member stands for a character as it is. -/
def Member.holds (ascii : Bool) (m : Member) (c : Char) : Bool :=
  match m with
  | .char n => c.toNat == n
  | .range first last => first ≤ c.toNat && c.toNat ≤ last
  | .kind negated k => k.holds ascii c != negated

/-- Whether a member has anything to do with case. -/
def Member.hasCase (ascii : Bool) : Member → Bool
  | .char n => 0x10000 ≤ n || Pattern.hasCase ascii n
  | .range first last => 0x10000 ≤ last || rangeHasCase ascii first last
  | .kind _ _ => false

/-- Whether a member stands for a small letter when case is ignored. Beyond the first plane a single
character has to be small already, and a range is tried with the capital as well. -/
def Member.holdsSmall (ascii : Bool) (m : Member) (c : Char) : Bool :=
  let n := c.toNat
  match m with
  | .kind negated k => k.holds ascii c != negated
  | .char code =>
    if 0x10000 ≤ code then n == code
    else small ascii code == n || (!ascii && (siblings n).contains (small ascii code))
  | .range first last =>
    let around := n :: if ascii then [] else siblings n
    around.any (fun z => (withSmall ascii z).any fun x => first ≤ x && x ≤ last)
      || (0x10000 ≤ last && !ascii
        && ((first ≤ n && n ≤ last) || (first ≤ capital n && capital n ≤ last)))

/-- Whether a class holds a character. -/
def inClass (mode : Mode) (negated : Bool) (members : List Member) (c : Char) : Bool :=
  let found :=
    if mode.ignoreCase && members.any (·.hasCase mode.ascii) then
      let low := Char.ofNat (small mode.ascii c.toNat)
      members.any (·.holdsSmall mode.ascii low)
    else members.any (·.holds mode.ascii c)
  found != negated

/-- Whether a character of the text is the one written in the pattern. -/
def sameChar (mode : Mode) (code : Nat) (c : Char) : Bool :=
  if mode.ignoreCase && hasCase mode.ascii code then
    let low := small mode.ascii code
    let n := small mode.ascii c.toNat
    n == low || (!mode.ascii && (siblings low).contains n)
  else c.toNat == code

/-- Whether two characters of the text count as the same. -/
def sameLetters (mode : Mode) (a b : Char) : Bool :=
  if mode.ignoreCase then small mode.ascii a.toNat == small mode.ascii b.toNat else a == b

end Parley.Pattern
