import Parley.Http.Exchange
import Parley.Rehearsal.Script

/-!
Another system that replies to requests by a script and keeps them.
-/

namespace Parley.Rehearsal

/-- What is replied to a request. -/
abbrev Response := Except Http.Fault Http.Reply

/-- A system: what it will reply, and what it was asked. -/
structure Peer where
  script : Script Response := []
  requests : List Http.Request := []

/-- Replies to a request. -/
def Peer.reply (r : Http.Request) (p : Peer) : Response × Peer :=
  let (response, script) := p.script.next (.ok {})
  (response, { script, requests := p.requests ++ [r] })

/-- Runs calls to a system. -/
def Peer.run {α : Type} (calls : Program Http.Access α) (p : Peer) : Except Failure α × Peer :=
  calls.run Peer.reply p

end Parley.Rehearsal
