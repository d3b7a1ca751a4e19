import Parley.Condition.Operator
import Parley.Condition.Rule
import Parley.Number.Leading
import Parley.Pattern.Reader

/-!
Whether a rule holds.

A field is taken as text. Numbers are compared as they are typed; other texts are compared without
regard to case, and a pattern is sought in the field as it is. A pattern that is not well formed is
never found.
-/

namespace Parley.Condition

open Number Text

/-- A variable as text. -/
def variableText : Option Json → String
  | none => ""
  | some .null => ""
  | some v => v.plainText

/-- The text that a rule's field stands for. The message is taken without blanks around it; a
variable that is missing, null or empty stands for the message. -/
def fieldText (field message : String) (vars : Fields) : String :=
  let message := strip message
  let name := strip (if field = "" then "message" else field)
  if name = "message" ∨ name = "user_message" ∨ name = "mensagem" then message
  else if name = "user_name" ∨ name = "nome" then
    variableText (Dictionary.find? vars "userName")
  else if name = "phone" ∨ name = "telefone" then
    variableText (Dictionary.find? vars "phoneNumber")
  else match Dictionary.find? vars name with
    | none | some .null | some (.str "") => message
    | some v => v.plainText

/-- Whether an operator compares numbers where the value is one. -/
def Operator.comparesNumbers : Operator → Bool
  | .equals | .greater | .less => true
  | _ => false

/-- Whether a pattern is found in a text; one that is not well formed is not. -/
def patternFound (pattern text : String) : Except Failure Bool :=
  match Pattern.read pattern with
  | .ok search => .ok (search.foundIn text)
  | .error .malformed => .ok false
  | .error .countTooLarge => .error .repetitionTooLarge
  | .error (.tooManyDigits digits) => .error (.tooManyDigits digits)
  | .error .mixedAlphabets => .error .mixedAlphabets

/-- Whether the comparison holds between a field and a value, both prepared for it. -/
def Operator.holds (op : Operator) (actual expected : String) : Except Failure Bool :=
  match op with
  | .equals => .ok (actual == expected)
  | .contains => .ok (Text.contains actual expected)
  | .greater => .ok (compareLeading (fun a b => b.lt a) actual expected)
  | .less => .ok (compareLeading Binary64.lt actual expected)
  | .exists_ => .ok (strip actual != "")
  | .pattern => patternFound expected actual

/-- A field and a value as an operator compares them. -/
def Operator.prepare (op : Operator) (actual expected : String) : String × String :=
  if op = .pattern then (actual, expected)
  else if op.comparesNumbers && (leadingNumber? expected).isSome then
    (strip actual, strip expected)
  else (lower actual, lower expected)

/-- Whether a rule holds of a message and the variables. A rule with an operator nobody knows does
not hold. -/
def evaluate (rule : Rule) (message : String) (vars : Fields) : Except Failure Bool :=
  match Operator.ofSpelling? rule.operator with
  | none => .ok false
  | some op =>
    let (actual, expected) := op.prepare (fieldText rule.field message vars) rule.value
    op.holds actual expected

/-- The first rule that holds, with its place. -/
def selectFrom (message : String) (vars : Fields) :
    (place : Nat) → List Rule → Except Failure (Option (Nat × Rule))
  | _, [] => .ok none
  | place, rule :: rest =>
    match evaluate rule message vars with
    | .error failure => .error failure
    | .ok true => .ok (some (place, rule))
    | .ok false => selectFrom message vars (place + 1) rest

/-- The first rule that holds. -/
def select (rules : List Rule) (message : String) (vars : Fields) :
    Except Failure (Option (Nat × Rule)) := selectFrom message vars 0 rules

example : (evaluate { operator := "maior", value := "18" } "25" []).toOption = some true := by
  decide +kernel

end Parley.Condition
