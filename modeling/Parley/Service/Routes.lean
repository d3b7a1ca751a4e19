import Parley.Conversation.Writer
import Parley.Desk.Operations
import Parley.Flow.Report
import Parley.Http.Address
import Parley.Service.Inbound

/-!
What can be asked of a desk over HTTP.

A path stands for at most one route, and a route has one method. A body is read before anything is
done; a body that cannot be read is rejected with its issues.
-/

namespace Parley.Service

open Schema Text

/-- A request. -/
structure Request where
  method : String
  path : String
  body : Json := .null

/-- A reply. -/
inductive Reply where
  | answered (status : Nat) (body : Json)
  /-- The body of the request is rejected. -/
  | rejected (issues : List Issue)

/-- What can be asked. -/
inductive Route where
  | about
  | health
  | message
  | check
  | active (contact : Contact)
  | cancel (contact : Contact)
  deriving DecidableEq, Repr

namespace Route

/-- The method of a route. -/
def method : Route → String
  | about | health | active _ => "GET"
  | message | check | cancel _ => "POST"

/-- The route of a path, by the parts between its slashes. -/
def ofParts : List String → Option Route
  | ["", ""] => some about
  | ["", "health"] => some health
  | ["", "webhook", "messages"] => some message
  | ["", "api", "flows", "validate"] => some check
  | ["", "api", "flows", tenant, session, person] => contact tenant session person active
  | ["", "api", "flows", tenant, session, person, "cancel"] => contact tenant session person cancel
  | _ => none
where
  /-- A route for a contact of which no part is empty. -/
  contact (tenant session person : String) (route : Contact → Route) : Option Route :=
    if tenant = "" || session = "" || person = "" then none
    else some (route { tenant, session, person })

/-- The path that an address asks for, in plain characters. -/
def plainPath (path : String) : String :=
  match Http.Address.read path with
  | .ok a => Http.Address.unescape (Http.Address.withoutDots a.target.path).toList
  | .error _ => path

/-- The route of a path in plain characters. -/
def ofPath (path : String) : Option Route :=
  ofParts ((splitAtChar '/' path.toList).map String.ofList)

/-- A path without the slashes at its end. -/
def withoutEnd (path : String) : String :=
  String.ofList (path.toList.reverse.dropWhile (· = '/')).reverse

end Route

/-- A reply that says in words why there is nothing else. -/
def Reply.told (status : Nat) (detail : String) : Reply :=
  .answered status (.obj [("detail", .str detail)])

/-- A moment as it is written in a reply: universal time is marked by a letter. -/
def momentText (m : Moment) : String := if m.offset = some 0 then m.localText ++ "Z" else m.text

/-- A finding as it is written in a reply. -/
def findingFields (f : Finding) : Json :=
  .obj [("code", .str f.code), ("message", .str f.message), ("node_id", .ofText? f.node),
    ("severity", .str f.severity)]

/-- What is said of a value that is no flow. -/
def noFlow : Json :=
  .obj [("code", .str FlowReport.unreadableCode), ("message", .null), ("node_id", .null),
    ("severity", .str Severity.error.name)]

/-- The findings of a report that are as bad as a severity. -/
def told (s : Severity) : FlowReport → List Json
  | .checked problems => (problems.filter (·.severity == s)).map fun p => findingFields p.finding
  | .unreadable _ => if s = .error then [noFlow] else []

/-- A report as it is written in a reply. -/
def verdict (r : FlowReport) : Json :=
  .obj [("valid", .bool r.isValid), ("errors", .arr (told .error r)),
    ("warnings", .arr (told .warning r))]

/-- Handles a body that is read by `read`; without a body there is an issue. -/
def withBody {α : Type} (read : Json → Reading α) (body : Json) (f : α → Desk.Work Reply) :
    Desk.Work Reply :=
  let reading : Reading α := match body with
    | .null => .issue .missing
    | v => read v
  match reading.under (.key "body") with
  | .ok a => f a
  | .rejected issues => pure (.rejected issues)
  | .failed failure => Program.fail failure

/-- Does what a route stands for. -/
def serve (s : Desk.Settings) (body : Json) : Route → Desk.Work Reply
  | .about => pure (.answered 200 (.obj [("name", .str "ChatFlow Engine"),
      ("version", .str "1.0.0"), ("status", .str "running")]))
  | .health => pure (.answered 200 (.obj [("status", .str "ok")]))
  | .message => withBody Inbound.read body fun m => do
    let result ← Desk.receive s m.contact (some m.text) m.name m.phone
    pure (.answered 200 (.obj result.toFields))
  | .check => withBody readObject body fun fields => do
    let report ← Program.ofExcept (Flow.report (.obj fields))
    pure (.answered 200 (verdict report))
  | .active contact => do
    let found ← Desk.active contact
    match found with
    | some c => pure (.answered 200 (c.toJson momentText))
    | none => pure (.told 404 "No active flow")
  | .cancel contact => do
    let cancelled ← Desk.cancel contact
    pure (.answered 200 (.obj [("cancelled", .bool cancelled)]))

/-- The reply to a request for a path that has no route. One that has slashes too many at its end is
sent on to where it would have one. -/
def astray (path : String) : Reply :=
  if (Route.ofPath (Route.withoutEnd path)).isSome then .answered 307 .null
  else .told 404 "Not Found"

/-- Handles a request. -/
def handle (s : Desk.Settings) (r : Request) : Desk.Work Reply :=
  let path := Route.plainPath r.path
  match Route.ofPath path with
  | none => pure (astray path)
  | some route =>
    if route.method = r.method then serve s r.body route else pure (.told 405 "Method Not Allowed")

end Parley.Service
