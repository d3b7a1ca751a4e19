/-!
Faults found while a JSON value is read as something of the domain.

An issue says where the value stands, as the keys and indices that lead to it, and what is wrong
with it.
-/

namespace Parley.Schema

/-- One step on the way to a value: a key of an object or an index of an array. -/
inductive PathStep where
  | key (name : String)
  | index (n : Nat)
  deriving DecidableEq, Repr

/-- The way to a value, outermost step first. -/
abbrev Path := List PathStep

/-- What can be wrong with a value. -/
inductive IssueKind where
  | missing
  | notText
  | notTruth
  | badTruth
  | notNumber
  | badNumber
  | notWhole
  | badWhole
  | fractionalWhole
  | infiniteWhole
  | wholeTooLong
  | notAmong
  | notList
  | notObject
  | notRecord
  | notBody
  | notMoment
  | badMoment
  | momentOutOfRange
  /-- A fault of the value's own kind; the wording is kept where it says more than the kind. -/
  | unfit (message : Option String)
  deriving DecidableEq, Repr

/-- The code of a kind of issue. -/
def IssueKind.code : IssueKind → String
  | .missing => "missing"
  | .notText => "string_type"
  | .notTruth => "bool_type"
  | .badTruth => "bool_parsing"
  | .notNumber => "float_type"
  | .badNumber => "float_parsing"
  | .notWhole => "int_type"
  | .badWhole => "int_parsing"
  | .fractionalWhole => "int_from_float"
  | .infiniteWhole => "finite_number"
  | .wholeTooLong => "int_parsing_size"
  | .notAmong => "enum"
  | .notList => "list_type"
  | .notObject => "dict_type"
  | .notRecord => "model_type"
  | .notBody => "model_attributes_type"
  | .notMoment => "datetime_type"
  | .badMoment => "datetime_from_date_parsing"
  | .momentOutOfRange => "datetime_parsing"
  | .unfit _ => "value_error"

/-- A fault and the way to the value that has it. -/
structure Issue where
  path : Path
  kind : IssueKind
  deriving DecidableEq, Repr

/-- The issue as seen from further out. -/
def Issue.under (step : PathStep) (i : Issue) : Issue := { i with path := step :: i.path }

end Parley.Schema
