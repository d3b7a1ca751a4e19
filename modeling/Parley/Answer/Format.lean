import Parley.Answer.Contact
import Parley.Answer.Document
import Parley.Text.Case

/-!
The formats a question can ask for, and the verdict on an answer.

A format has a test and a way of cleaning what passed it. A blank answer passes every format and is
cleaned to nothing; whether a question must be answered is not a matter of its format.
-/

namespace Parley.Answer

open Text

/-- What a question can ask for. -/
inductive Format where
  | anything
  | email
  | phone
  | number
  | plate
  | document (d : Document)
  deriving DecidableEq, Repr

/-- What a refused answer failed at. -/
inductive RefusalKind where
  | format
  | checkDigits
  deriving DecidableEq, Repr

/-- The name of a kind of refusal. -/
def RefusalKind.name : RefusalKind → String
  | .format => "invalid_format"
  | .checkDigits => "invalid_checksum"

/-- What became of an answer. -/
inductive Verdict where
  | accepted (cleaned : String)
  | refused (kind : RefusalKind) (message : String)
  deriving DecidableEq, Repr

namespace Format

/-- The format of a name, in any case and with blanks around it; unknown names ask for anything. -/
def ofName (name : String) : Format :=
  match lower (strip name) with
  | "email" => .email
  | "phone" => .phone
  | "number" => .number
  | "cpf" => .document .cpf
  | "cnpj" => .document .cnpj
  | "cnh" => .document .cnh
  | "plate" => .plate
  | _ => .anything

/-- Whether a text without blanks around it has the format. -/
def accepts : Format → String → Bool
  | .anything, _ => true
  | .email, s => isEmail s
  | .phone, s => isPhone s
  | .number, s => isNumber s
  | .plate, s => isPlate s
  | .document d, s => (d.check s).isOk

/-- What is kept of a text that has the format. -/
def clean : Format → String → String
  | .anything, s => s
  | .email, s => lower (strip s)
  | .phone, s => cleanPhone s
  | .number, s => strip s
  | .plate, s => cleanPlate s
  | .document _, s => onlyDigits s

/-- What a refused answer failed at. -/
def refusal : Format → RefusalKind
  | .document _ => .checkDigits
  | _ => .format

/-- What is said to a contact whose answer is refused, where the question has no words for it. -/
def refusalText : Format → String
  | .anything => ""
  | .email => "Email inválido. Exemplo: nome@email.com"
  | .phone => "Telefone inválido. Informe DDD + número (ex: 11999998888)"
  | .number => "Por favor, informe apenas números."
  | .document .cpf => "CPF inválido. Verifique os dígitos informados."
  | .document .cnpj => "CNPJ inválido. Verifique os dígitos informados."
  | .document .cnh => "CNH inválida. Verifique os dígitos informados."
  | .plate => "Placa inválida. Exemplo: ABC1234 ou ABC1D23"

end Format

/-- What is said to a contact who leaves a question unanswered that must be answered. -/
def requiredText : String := "Este campo é obrigatório. Por favor, responda para continuarmos."

/-- The verdict on an answer to a question that asks for a format. -/
def judge (format : Format) (answer : String) : Verdict :=
  let s := strip answer
  if s = "" then .accepted ""
  else if format.accepts s then .accepted (format.clean s)
  else .refused format.refusal format.refusalText

/-- Whether the answer is accepted. -/
def Verdict.isAccepted : Verdict → Bool
  | .accepted _ => true
  | .refused _ _ => false

example : judge (.ofName " CPF ") " 529.982.247-25 " = .accepted "52998224725" := by decide +kernel

example : judge .email "nome" = .refused .format "Email inválido. Exemplo: nome@email.com" := by
  decide +kernel

end Parley.Answer
