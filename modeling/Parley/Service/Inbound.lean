import Parley.Conversation.Basic
import Parley.Schema.Scalar

/-!
Messages that come in from a channel.
-/

namespace Parley.Service

open Schema

/-- A message and who sent it. -/
structure Inbound where
  contact : Contact
  text : String := ""
  name : Option String := none
  phone : Option String := none
  deriving DecidableEq, Repr

/-- Reads a message. -/
def Inbound.read : Json → Reading Inbound
  | .obj fields =>
    let build (tenant session person text : String) (name phone : Option String) : Inbound :=
      { contact := { tenant, session, person }, text, name, phone }
    build <$> required fields ["tenant_id", "company_id"] readText
      <*> required fields ["channel_session_id", "session_id"] readText
      <*> required fields ["contact_id"] readText
      <*> optional fields ["text"] "" readText
      <*> optional fields ["contact_name"] none readNullableText
      <*> optional fields ["contact_phone"] none readNullableText
  | _ => .issue .notBody

end Parley.Service
