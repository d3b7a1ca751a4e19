import Parley.Http.Address
import Parley.Http.Status
import Parley.Json.Reader
import Parley.Text.Base64
import Parley.Turn.Outside

/-!
Calls over HTTP.

A call becomes one request; what comes of it, also that nothing does, is told in a `CallAnswer`. A
call fails only where it cannot be made into a request, or where its address does not say where to
go and something replies all the same.
-/

namespace Parley.Http

open Number Text

/-- How long an answer is waited for, in seconds. -/
inductive Wait where
  | whole (n : Int)
  | exact (x : Binary64)
  deriving DecidableEq, Repr

namespace Wait

/-- Whether there is no time at all. -/
def isNone : Wait → Bool
  | whole n => n = 0
  | exact x => x.isZero

/-- The number of seconds in words. -/
def text : Wait → String
  | whole n => intText n
  | exact x => floatText x

/-- Half a minute. -/
def usual : Wait := exact (.ofInt 30)

/-- The first wait that is one, or half a minute. -/
def first (waits : List (Option Wait)) : Wait :=
  ((waits.filterMap id).find? (!·.isNone)).getD usual

end Wait

/-- A request. -/
structure Request where
  method : String
  address : Address
  headers : List (String × String)
  body : Option Json

namespace Request

/-- Whether a header has a name; capital and small letters are the same. -/
def isNamed (name : String) (header : String × String) : Bool := lower header.1 == lower name

/-- What a header says; one that is given several times says all of it. -/
def header? (r : Request) (name : String) : Option String :=
  match r.headers.filter (isNamed name) with
  | [] => none
  | found => some (join ", " (found.map (·.2)))

/-- The request with a header that it may have already. -/
def withUsual (r : Request) (name value : String) : Request :=
  if (r.header? name).isSome then r else { r with headers := r.headers ++ [(name, value)] }

/-- The request with a header in place of those of its name. -/
def withHeader (r : Request) (name value : String) : Request :=
  { r with headers := r.headers.filter (fun h => !isNamed name h) ++ [(name, value)] }

end Request

/-- What is answered to a request. -/
structure Reply where
  status : Int := 200
  text : String := ""
  deriving DecidableEq, Repr

/-- Why a request is not answered. -/
inductive Fault where
  /-- No answer came in time. -/
  | late
  /-- Nobody was there. -/
  | unreachable (message : String)
  /-- What came was no answer. -/
  | garbled (message : String)
  deriving DecidableEq, Repr

/-- A fault in words. -/
def Fault.message (limit : Wait) : Fault → String
  | late => "Timeout after " ++ limit.text ++ "s"
  | unreachable message => if message = "" then "ConnectError" else message
  | garbled message => if message = "" then "RemoteProtocolError" else message

/-- Requests with their replies or faults. -/
abbrev Access : Interface := ⟨Request, fun _ => Except Fault Reply⟩

/-- The methods that send something. -/
def sendingMethods : List String := ["POST", "PUT", "PATCH"]

/-- The first row of characters outside ASCII, and where it starts. -/
def foreignRow? (cs : List Char) : Option (Char × Nat × Nat) :=
  let (before, rest) := cs.span (·.toNat < 0x80)
  rest.head?.map fun c => (c, before.length, (rest.takeWhile (0x80 ≤ ·.toNat)).length)

/-- A text that may stand in a header. -/
def headerText (s : String) : Except Failure String :=
  match foreignRow? s.toList with
  | some (c, position, count) => .error (.badHeader c position count)
  | none => .ok s

/-- Headers of names and values that may stand there. -/
def readHeaders (headers : Dictionary String) : Except Failure (List (String × String)) :=
  headers.mapM fun (name, value) => do
    let name ← headerText name
    let value ← headerText value
    .ok (name, value)

/-- Who calls, as the address tells it. -/
def proof? (a : Address) : Option String :=
  if a.user = "" then none else
    let (name, password) := Address.cut [':'] a.user.toList
    some ("Basic " ++ base64 (Address.unescape name ++ ":" ++ Address.unescape password.tail))

/-- The request with what some method sends. -/
def Request.sending (r : Request) (body : Json) : Except Failure Request :=
  if sendingMethods.contains r.method then
    if body.isFinite then
      let r := { r with body := some (body.orElse (.obj [])) }
      .ok (r.withUsual "Content-Type" "application/json")
    else .error .notFinite
  else .ok r

/-- The request that makes a call. Without a method it is a `POST`, and an address that does not say
where to go stands for its path. -/
def Request.of (url method : String) (headers : Dictionary String) (body : Json) :
    Except Failure Request := do
  let address ← (Address.read url).mapError .badAddress
  let headers ← readHeaders headers
  let address := if address.isAbsolute then address else address.target
  let method := upper (if method = "" then "POST" else method)
  let request ← Request.sending { method, address, headers, body := none } body
  .ok (match proof? address with
    | some proof => request.withHeader "Authorization" proof
    | none => request)

/-- What a reply says: a JSON value, where it is one, otherwise its text. -/
def Reply.content (r : Reply) : Json :=
  if r.text = "" then .null else
    match Json.read (match r.text.toList with
      | '\uFEFF' :: cs => String.ofList cs
      | cs => String.ofList cs) with
    | .ok v => v
    | .error _ => .str r.text

/-- What became of a call that was replied to. -/
def Reply.answer (r : Reply) : CallAnswer where
  success := isSuccess r.status
  status := some r.status
  body := r.content
  error := if isSuccess r.status then none else some (statusText r.status)

/-- What became of a call. A reply counts only when the address says where it comes from. -/
def answerOf (limit : Wait) (a : Address) : Except Fault Reply → Except Failure CallAnswer
  | .ok r => if a.isAbsolute then .ok r.answer else .error (.noPlace a.text)
  | .error fault => .ok { success := false, error := some (fault.message limit) }

/-- Makes a call. -/
def call (url method : String) (headers : Dictionary String) (body : Json) (limit : Wait) :
    Program Access CallAnswer := do
  let request ← Program.ofExcept (Request.of url method headers body)
  let reply ← @Program.call Access request
  Program.ofExcept (answerOf limit request.address reply)

end Parley.Http
