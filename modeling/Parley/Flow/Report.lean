import Parley.Flow.Check
import Parley.Flow.Reader

/-!
Reports on values that should be flows.

A value that can be read as a flow is reported with everything that is amiss with the flow, any
other with everything that is wrong with the value. Only a flow without errors is valid.
-/

namespace Parley

open Schema

/-- What is reported of a value. -/
inductive FlowReport where
  | checked (problems : List Problem)
  | unreadable (issues : List Issue)

namespace FlowReport

/-- Whether the value is a flow that can be used; warnings do not matter. -/
def isValid : FlowReport → Bool
  | checked problems => problems.all (·.severity != .error)
  | unreadable _ => false

/-- The code that an unreadable value is reported under. -/
def unreadableCode : String := "INVALID_DEFINITION"

end FlowReport

/-- The report of a value. -/
def Flow.report (v : Json) : Except Failure FlowReport :=
  match Flow.read v with
  | .ok f => .ok (.checked f.problems)
  | .rejected issues => .ok (.unreadable issues)
  | .failed e => .error e

end Parley
