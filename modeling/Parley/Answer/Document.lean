import Parley.Text.Digit

/-!
Numbers of Brazilian documents and their two check digits.

A number is a row of digits whose last two are computed from the others by weighted sums modulo
eleven. `Document.checkDigits` computes the pair, and `Document.check` compares it with the digits
given. A number of one digit repeated is refused although its check digits are right.
-/

namespace Parley.Answer

open Text

/-- The documents whose numbers are checked: a person's, a company's and a driver's. -/
inductive Document where
  | cpf
  | cnpj
  | cnh
  deriving DecidableEq, Repr

/-- What can be wrong with a document number. -/
inductive DocumentFault where
  | wrongLength
  | repeatedDigit
  | wrongCheckDigits
  deriving DecidableEq, Repr

namespace Document

/-- How many digits a number has, the check digits included. -/
def length : Document → Nat
  | .cpf => 11
  | .cnpj => 14
  | .cnh => 11

/-- The sum of the digits, each times its weight. -/
def weightedSum (weights digits : List Nat) : Nat :=
  (List.zipWith (· * ·) weights digits).foldr (· + ·) 0

/-- The check digit of a sum: what is missing to the next multiple of eleven, nought where that is
ten or eleven. -/
def complementDigit (sum : Nat) : Nat := if sum % 11 < 2 then 0 else 11 - sum % 11

/-- The weights of the digits in the first sum, and of all digits with the first check digit in the
second. -/
def weights : Document → List Nat × List Nat
  | .cpf => ([10, 9, 8, 7, 6, 5, 4, 3, 2], [11, 10, 9, 8, 7, 6, 5, 4, 3, 2])
  | .cnpj => ([5, 4, 3, 2, 9, 8, 7, 6, 5, 4, 3, 2], [6, 5, 4, 3, 2, 9, 8, 7, 6, 5, 4, 3, 2])
  | .cnh => ([9, 8, 7, 6, 5, 4, 3, 2, 1], [1, 2, 3, 4, 5, 6, 7, 8, 9])

/-- The check digits of a driver's number: the remainders of two sums, nought in place of ten. When
that happens to the first, two is taken off the second, modulo eleven. -/
def driverDigits (digits : List Nat) : Nat × Nat :=
  let first := weightedSum weights_fst digits % 11
  let second := weightedSum weights_snd digits % 11
  let discount := if 10 ≤ first then 2 else 0
  let second := if 10 ≤ second then 0
    else if second < discount then second + 11 - discount else second - discount
  (if 10 ≤ first then 0 else first, if 10 ≤ second then 0 else second)
where
  weights_fst : List Nat := (weights .cnh).1
  weights_snd : List Nat := (weights .cnh).2

/-- The two check digits that belong to the digits in front of them. -/
def checkDigits (d : Document) (digits : List Nat) : Nat × Nat :=
  match d with
  | .cnh => driverDigits digits
  | d =>
    let first := complementDigit (weightedSum d.weights.1 digits)
    (first, complementDigit (weightedSum d.weights.2 (digits ++ [first])))

/-- Whether all characters are the same one. -/
def isRepeated : List Char → Bool
  | [] => true
  | c :: cs => cs.all (· == c)

/-- What is wrong with a number, all but its digits being ignored. -/
def check (d : Document) (number : String) : Except DocumentFault Unit :=
  let cs := number.toList.filter isDigit
  if cs.length ≠ d.length then .error .wrongLength
  else if isRepeated cs then .error .repeatedDigit
  else
    let digits := cs.map digitValue
    let (first, second) := d.checkDigits (digits.take (d.length - 2))
    if digits.drop (d.length - 2) = [first, second] then .ok () else .error .wrongCheckDigits

/-- The name of the document and the ending that "invalid" takes beside it. -/
def label : Document → String × String
  | .cpf => ("CPF", "inválido")
  | .cnpj => ("CNPJ", "inválido")
  | .cnh => ("CNH", "inválida")

/-- The wording of a fault. -/
def faultText (d : Document) : DocumentFault → String
  | .wrongLength => d.label.1 ++ " deve ter " ++ natText d.length ++ " dígitos"
  | .repeatedDigit => d.label.1 ++ " " ++ d.label.2
  | .wrongCheckDigits => d.label.1 ++ " " ++ d.label.2 ++ " - dígito verificador incorreto"

example : (check .cpf "529.982.247-25").toOption = some () := by decide +kernel

example : (check .cnpj "11.222.333/0001-81").toOption = some () := by decide +kernel

example : (check .cpf "111.111.111-11").toOption = none := by decide +kernel

end Document

end Parley.Answer
