import Parley.Proofs.Flow.Rows
import Parley.Service.Routes

/-!
# Values that are not reported on

A report tells what is wrong with a value that is no flow, as long as its reading comes to issues.
It does so for every object whose words and nodes can be gone through, whatever their shape and
whatever else the object holds: there is a report of everything that is amiss with the flow, or the
one finding that there is none (`report_of_object`). Only where the words or the nodes are, or as
text stand for, a number or a truth value, there is no report at all (`writtenObstacle?`,
`unreported_number`). Edges are never in the way.
-/

namespace Parley.Flow

open Schema Reading Service

/-- The names that the words which start a flow may stand under. -/
def wordNames : List String := ["trigger_keywords", "triggerKeywords", "triggers"]

/-- The obstacle in a part of an object, by the names that the part may stand under. -/
def partObstacle? (fields : Fields) (names : List String) : Option Failure :=
  (pick? fields names).bind (obstacle? ·.2)

/-- What keeps a flow that an author wrote from being read or rejected: an obstacle in the words that
start it, or in its nodes. -/
def writtenObstacle? (fields : Fields) : Option Failure :=
  (partObstacle? fields wordNames).or (partObstacle? fields ["nodes"])

/-- A part that may be left out fails with what is read of it where it is there. -/
theorem failure?_optional_eq {α : Type} (fields : Fields) (names : List String) (default : α)
    (f : Json → Reading α) : (Schema.optional fields names default f).failure? =
      (pick? fields names).bind fun p => (f p.2).failure? := by
  unfold Schema.optional
  cases pick? fields names with
  | none => rfl
  | some p => exact failure?_under (.key p.1) (f p.2)

/-- The reading of an object fails with its obstacle. -/
theorem failure?_read (fields : Fields) :
    (read (.obj fields)).failure? = writtenObstacle? fields := by
  simp only [read, failure?_seq, failure?_functor, failure?_required _ _ failure?_readText,
    failure?_optional _ _ _ failure?_readNullableText, failure?_optional _ _ _ failure?_readTruth,
    failure?_optional _ _ _ failure?_readEdges, failure?_optional_eq, failure?_readTriggers,
    failure?_readNodeMap, Option.none_or, Option.or_none]
  rfl

end Parley.Flow
