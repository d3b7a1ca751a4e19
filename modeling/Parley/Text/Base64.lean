/-!
The base-64 text of a row of bytes.

Three bytes become four characters; an incomplete group at the end is filled up with `=`.
-/

namespace Parley.Text

/-- The 64 characters in the order of their values. -/
def base64Letters : List Char :=
  "ABCDEFGHIJKLMNOPQRSTUVWXYZabcdefghijklmnopqrstuvwxyz0123456789+/".toList

/-- The character of a value below 64. -/
def base64Letter (n : Nat) : Char := base64Letters.getD (n % 64) '='

/-- The characters for bytes. -/
def base64Chars : List Nat → List Char
  | [] => []
  | [a] => [base64Letter (a / 4), base64Letter (a * 16), '=', '=']
  | [a, b] => [base64Letter (a / 4), base64Letter (a * 16 + b / 16), base64Letter (b * 4), '=']
  | a :: b :: c :: rest =>
    base64Letter (a / 4) :: base64Letter (a % 4 * 16 + b / 16)
      :: base64Letter (b % 16 * 4 + c / 64) :: base64Letter c :: base64Chars rest

/-- The base-64 text of the UTF-8 bytes of a text. -/
def base64 (s : String) : String :=
  String.ofList (base64Chars (s.toUTF8.toList.map UInt8.toNat))

example : base64Chars [77, 97, 110, 77, 97, 77] = "TWFuTWFN".toList
    ∧ base64Chars [77] = "TQ==".toList := by
  decide +kernel

end Parley.Text
