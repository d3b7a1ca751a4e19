import Parley.Text.Printable

/-!
Texts between quotation marks, for listings.

A text stands between apostrophes, or between double quotes when it holds an apostrophe and no
double quote. The chosen mark, the backslash and all characters that are not printable are escaped:
line feed, return and tab by a letter, the others by their code point in two, four or eight
hexadecimal digits.
-/

namespace Parley.Text

/-- The low `width` hexadecimal digits of a number. -/
def hexDigits (width n : Nat) : List Char :=
  (List.range width).reverse.map fun i => Nat.digitChar (n / Nat.pow 16 i % 16)

/-- The mark a text is quoted with. -/
def quoteMark (cs : List Char) : Char :=
  if cs.contains '\'' && !cs.contains '"' then '"' else '\''

/-- A character inside quotes of the given mark. -/
def quoteChar (mark c : Char) : List Char :=
  if c = mark || c = '\\' then ['\\', c]
  else if c = '\n' then ['\\', 'n']
  else if c = '\r' then ['\\', 'r']
  else if c = '\t' then ['\\', 't']
  else if isPrintable c then [c]
  else if c.toNat < 0x100 then '\\' :: 'x' :: hexDigits 2 c.toNat
  else if c.toNat < 0x10000 then '\\' :: 'u' :: hexDigits 4 c.toNat
  else '\\' :: 'U' :: hexDigits 8 c.toNat

/-- A text between quotation marks. -/
def quoted (s : String) : String :=
  let cs := s.toList
  let mark := quoteMark cs
  String.ofList (mark :: cs.flatMap (quoteChar mark) ++ [mark])

example : quoted "it's" = "\"it's\"" := by decide +kernel

example : quoted "a\nb\u0085" = "'a\\nb\\x85'" := by decide +kernel

end Parley.Text
