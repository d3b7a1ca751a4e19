import Parley.Pattern.Basic

/-!
How many characters a pattern can take up.

What has to stand before a place must have one fixed length, so that its start is known.
-/

namespace Parley.Pattern

/-- The least and the largest length of a match; without a largest one there is no limit. -/
structure Width where
  least : Nat
  most : Option Nat
  deriving DecidableEq, Repr

/-- Lengths from here up count as unlimited. -/
def unlimited : Nat := Nat.pow 2 64

/-- A largest length, unless it is too large to count. -/
def capped (n : Nat) : Option Nat := if unlimited ≤ n then none else some n

/-- The width of two parts one after the other. -/
def Width.append (a b : Width) : Width :=
  ⟨a.least + b.least, do capped ((← a.most) + (← b.most))⟩

/-- The width of one of two parts. -/
def Width.either (a b : Width) : Width :=
  ⟨min a.least b.least, do some (max (← a.most) (← b.most))⟩

/-- The width of a repeated part. -/
def Width.repeated (w : Width) (least : Nat) (most : Option Nat) : Width :=
  let top := match most, w.most with
    | _, some 0 => some 0
    | some n, some m => capped (m * n)
    | some 0, none => some 0
    | _, _ => none
  ⟨w.least * least, top⟩

mutual

/-- The width of a pattern; `groups` holds those of the groups read so far. -/
def width (groups : List (Nat × Width)) : Pattern → Width
  | .char _ | .otherThan _ | .any | .oneOf _ _ => ⟨1, some 1⟩
  | .anchor _ | .ahead _ _ | .behind _ _ => ⟨0, some 0⟩
  | .row parts => widthOfRow groups parts
  | .choice [] => ⟨0, some 0⟩
  | .choice (part :: rest) => widthOfChoice groups (width groups part) rest
  | .times least most _ part => (width groups part).repeated least most
  | .group _ part => width groups part
  | .scoped _ part => width groups part
  | .atomic part => width groups part
  | .again number => (groups.lookup number).getD ⟨0, none⟩
  | .ifGroup _ yes no =>
    let w := width groups yes
    match no with
    | some part => w.either (width groups part)
    | none => ⟨0, w.most⟩

/-- The width of parts one after the other. -/
def widthOfRow (groups : List (Nat × Width)) : List Pattern → Width
  | [] => ⟨0, some 0⟩
  | part :: rest => (width groups part).append (widthOfRow groups rest)

/-- The width of one of several parts. -/
def widthOfChoice (groups : List (Nat × Width)) (w : Width) : List Pattern → Width
  | [] => w
  | part :: rest => widthOfChoice groups (w.either (width groups part)) rest

end

/-- The longest look back. -/
def maxLookBack : Nat := 4294967295

/-- The length of a pattern all of whose matches are equally long. -/
def fixedWidth? (groups : List (Nat × Width)) (p : Pattern) : Option Nat :=
  let w := width groups p
  if w.most = some w.least ∧ w.least ≤ maxLookBack then some w.least else none

mutual

/-- Whether everything that has to stand before a place has a fixed length. -/
def looksBackFixed (groups : List (Nat × Width)) : Pattern → Bool
  | .char _ | .otherThan _ | .any | .oneOf _ _ | .anchor _ | .again _ => true
  | .row parts => looksBackFixedAll groups parts
  | .choice parts => looksBackFixedAll groups parts
  | .times _ _ _ part => looksBackFixed groups part
  | .group _ part => looksBackFixed groups part
  | .scoped _ part => looksBackFixed groups part
  | .atomic part => looksBackFixed groups part
  | .ahead _ part => looksBackFixed groups part
  | .behind _ part => (fixedWidth? groups part).isSome && looksBackFixed groups part
  | .ifGroup _ yes no => looksBackFixed groups yes && match no with
    | some part => looksBackFixed groups part
    | none => true

/-- `looksBackFixed` for each of several parts. -/
def looksBackFixedAll (groups : List (Nat × Width)) : List Pattern → Bool
  | [] => true
  | part :: rest => looksBackFixed groups part && looksBackFixedAll groups rest

end

mutual

/-- Whether some part is repeated. -/
def repeats : Pattern → Bool
  | .char _ | .otherThan _ | .any | .oneOf _ _ | .anchor _ | .again _ => false
  | .row parts => repeatsAny parts
  | .choice parts => repeatsAny parts
  | .times _ _ _ _ => true
  | .group _ part => repeats part
  | .scoped _ part => repeats part
  | .atomic part => repeats part
  | .ahead _ part => repeats part
  | .behind _ part => repeats part
  | .ifGroup _ yes no => repeats yes || match no with
    | some part => repeats part
    | none => false

/-- Whether some part of several is repeated. -/
def repeatsAny : List Pattern → Bool
  | [] => false
  | part :: rest => repeats part || repeatsAny rest

end

end Parley.Pattern
