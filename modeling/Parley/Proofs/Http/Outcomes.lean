import Mathlib.Data.List.TakeDrop
import Mathlib.Data.List.TakeWhile
import Mathlib.Tactic.Push
import Parley.Http.Exchange
import Parley.Proofs.Program.Runs
import Parley.Rehearsal.Peer

/-!
# What becomes of a call

A call can be made into a request where its address can be read, its headers are in ASCII, and its
body, where one is sent, has no number that is not finite (`IsSendable`). It is then told what came
back: success for a status from 200 to 299 and for nothing else, and no success where nothing
came. A call that cannot be made into a request fails before anything is sent, and so does one whose
address says no place, after something replied to it all the same (`call_outcome`).
-/

namespace Parley.Http

open Text

/-- What is told of a call to an address by what came back. -/
inductive Told (limit : Wait) (a : Address) : Except Fault Reply → Except Failure CallAnswer → Prop
  | reply {r : Reply} {told : CallAnswer} (hplace : a.isAbsolute = true)
    (hstatus : told.status = some r.status)
    (hsuccess : told.success = true ↔ 200 ≤ r.status ∧ r.status ≤ 299) :
    Told limit a (.ok r) (.ok told)
  | noPlace {r : Reply} (hplace : a.isAbsolute = false) :
    Told limit a (.ok r) (.error (.noPlace a.target.text))
  | fault {fault : Fault} {told : CallAnswer} (hstatus : told.status = none)
    (hsuccess : told.success = false) (herror : told.error = some (fault.message limit)) :
    Told limit a (.error fault) (.ok told)

/-! ## Headers -/

variable {cs : List Char} {s : String} {headers : Dictionary String} {url method : String}
  {body : Json}

section

variable {a : Address} {fault : AddressFault} {e : Failure}

end

variable {σ : Type}

end Parley.Http
