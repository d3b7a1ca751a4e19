import Parley.Text.Blank
import Parley.Text.Digit
import Parley.Text.Search

/-!
E-mail addresses, telephone numbers, plain numbers and vehicle plates.
-/

namespace Parley.Answer

open Text

/-- One `@` with something before it, and behind it a domain with a dot inside; no blanks, and in
the domain no dot at either end and no two dots in a row. -/
def isEmail (s : String) : Bool :=
  let cs := s.toList
  !cs.any isBlank && match splitAtChar '@' cs with
    | [name, domain] =>
      !name.isEmpty && domain.contains '.' && domain.head? != some '.'
        && domain.getLast? != some '.' && !holds domain ['.', '.']
    | _ => false

/-- The digits of a telephone number, without the country code where they are twelve or thirteen. -/
def phoneDigits (s : String) : List Char :=
  let ds := s.toList.filter isDigit
  if (ds.length = 12 ∨ ds.length = 13) ∧ startsWith ds ['5', '5'] then ds.drop 2 else ds

/-- The digits of a telephone number, without the country code. -/
def cleanPhone (s : String) : String := String.ofList (phoneDigits s)

/-- An area code of two digits other than nought, then nine digits that begin with nine or eight
that begin with two to eight. -/
def isPhone (s : String) : Bool :=
  match phoneDigits s with
  | a :: b :: n :: rest =>
    a != '0' && b != '0' &&
      if rest.length = 8 then n == '9'
      else rest.length = 7 && '2' ≤ n && n ≤ '8'
  | _ => false

/-- One or more ASCII digits and nothing else. -/
def isNumber (s : String) : Bool := !s.toList.isEmpty && s.toList.all isAsciiDigit

/-- Whether a character is one of the 26 letters, small or capital. -/
def isAsciiLetter (c : Char) : Bool := ('a' ≤ c && c ≤ 'z') || ('A' ≤ c && c ≤ 'Z')

/-- A small letter among the 26 made a capital. -/
def asciiCapital (c : Char) : Char :=
  if 'a' ≤ c ∧ c ≤ 'z' then Char.ofNat (c.toNat - 32) else c

/-- The ASCII letters and digits of a plate, letters as capitals. -/
def plateChars (s : String) : List Char :=
  (s.toList.filter fun c => isAsciiLetter c || isAsciiDigit c).map asciiCapital

/-- The ASCII letters and digits of a plate, letters as capitals. -/
def cleanPlate (s : String) : String := String.ofList (plateChars s)

/-- Three letters, a digit, a letter or digit, and two digits. -/
def isPlate (s : String) : Bool :=
  match plateChars s with
  | [a, b, c, d, e, f, g] =>
    isAsciiLetter a && isAsciiLetter b && isAsciiLetter c && isAsciiDigit d
      && (isAsciiLetter e || isAsciiDigit e) && isAsciiDigit f && isAsciiDigit g
  | _ => false

example : isEmail "nome@email.com" = true ∧ isEmail "a@b" = false ∧ isEmail "a@b..c" = false := by
  decide +kernel

example : isPhone "+55 (11) 99999-8888" = true ∧ cleanPhone "+55 (11) 99999-8888" = "11999998888" :=
  by decide +kernel

example : isPlate "abc-1d23" = true ∧ cleanPlate "abc-1d23" = "ABC1D23" := by decide +kernel

end Parley.Answer
