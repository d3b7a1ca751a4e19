import Parley.Dictionary
import Parley.Number.Binary64

/-!
JSON values.

Whole numbers of any size are kept apart from numbers written with a fraction or an exponent, and
the members of an object keep their order. Equality of values (`Json.same`) is looser than equality
of data: numbers are compared by value, the truth values count as the numbers one and nought, and
the order of an object's members does not matter.
-/

namespace Parley

open Number

/-- A JSON value. -/
inductive Json where
  | null
  | bool (b : Bool)
  | int (n : Int)
  | float (x : Binary64)
  | str (s : String)
  | arr (items : List Json)
  | obj (members : List (String × Json))
  deriving Repr

instance : Inhabited Json := ⟨.null⟩

/-- Named JSON values in order: the members of an object, the variables of a conversation. -/
abbrev Fields := Dictionary Json

namespace Json

mutual

/-- Whether two values are the same datum, members in the same order. -/
def decideEq : (a b : Json) → Decidable (a = b)
  | .null, b => match b with
    | .null => .isTrue rfl
    | .bool _ | .int _ | .float _ | .str _ | .arr _ | .obj _ => .isFalse (by intro h; cases h)
  | .bool x, b => match b with
    | .bool y =>
      if h : x = y then .isTrue (h ▸ rfl) else .isFalse (by intro e; cases e; exact h rfl)
    | .null | .int _ | .float _ | .str _ | .arr _ | .obj _ => .isFalse (by intro h; cases h)
  | .int x, b => match b with
    | .int y => if h : x = y then .isTrue (h ▸ rfl) else .isFalse (by intro e; cases e; exact h rfl)
    | .null | .bool _ | .float _ | .str _ | .arr _ | .obj _ => .isFalse (by intro h; cases h)
  | .float x, b => match b with
    | .float y =>
      if h : x = y then .isTrue (h ▸ rfl) else .isFalse (by intro e; cases e; exact h rfl)
    | .null | .bool _ | .int _ | .str _ | .arr _ | .obj _ => .isFalse (by intro h; cases h)
  | .str x, b => match b with
    | .str y => if h : x = y then .isTrue (h ▸ rfl) else .isFalse (by intro e; cases e; exact h rfl)
    | .null | .bool _ | .int _ | .float _ | .arr _ | .obj _ => .isFalse (by intro h; cases h)
  | .arr xs, b => match b with
    | .arr ys => match decideEqItems xs ys with
      | .isTrue h => .isTrue (h ▸ rfl)
      | .isFalse h => .isFalse (by intro e; cases e; exact h rfl)
    | .null | .bool _ | .int _ | .float _ | .str _ | .obj _ => .isFalse (by intro h; cases h)
  | .obj xs, b => match b with
    | .obj ys => match decideEqMembers xs ys with
      | .isTrue h => .isTrue (h ▸ rfl)
      | .isFalse h => .isFalse (by intro e; cases e; exact h rfl)
    | .null | .bool _ | .int _ | .float _ | .str _ | .arr _ => .isFalse (by intro h; cases h)

/-- `decideEq` for the items of an array. -/
def decideEqItems : (xs ys : List Json) → Decidable (xs = ys)
  | [], [] => .isTrue rfl
  | [], _ :: _ => .isFalse (by intro h; cases h)
  | _ :: _, [] => .isFalse (by intro h; cases h)
  | x :: xs, y :: ys => match decideEq x y, decideEqItems xs ys with
    | .isTrue h, .isTrue t => .isTrue (h ▸ t ▸ rfl)
    | .isFalse h, _ => .isFalse (by intro e; cases e; exact h rfl)
    | _, .isFalse t => .isFalse (by intro e; cases e; exact t rfl)

/-- `decideEq` for the members of an object. -/
def decideEqMembers : (xs ys : List (String × Json)) → Decidable (xs = ys)
  | [], [] => .isTrue rfl
  | [], _ :: _ => .isFalse (by intro h; cases h)
  | _ :: _, [] => .isFalse (by intro h; cases h)
  | (k, x) :: xs, (l, y) :: ys =>
    if hk : k = l then match decideEq x y, decideEqMembers xs ys with
      | .isTrue h, .isTrue t => .isTrue (hk ▸ h ▸ t ▸ rfl)
      | .isFalse h, _ => .isFalse (by intro e; cases e; exact h rfl)
      | _, .isFalse t => .isFalse (by intro e; cases e; exact t rfl)
    else .isFalse (by intro e; cases e; exact hk rfl)

end

instance : DecidableEq Json := decideEq

/-- The number a value counts as when values are compared. -/
def number? : Json → Option (Int ⊕ Binary64)
  | .bool b => some (.inl (if b then 1 else 0))
  | .int n => some (.inl n)
  | .float x => some (.inr x)
  | _ => none

/-- Numbers are the same when their values are. -/
def sameNumber : Int ⊕ Binary64 → Int ⊕ Binary64 → Bool
  | .inl m, .inl n => m == n
  | .inl m, .inr x => x.isInt m
  | .inr x, .inl n => x.isInt n
  | .inr x, .inr y => x.same y

mutual

/-- Whether two values are equal: numbers by value, objects whatever the order of their members. -/
def same : Json → Json → Bool
  | .null, .null => true
  | .str a, .str b => a == b
  | .arr xs, .arr ys => sameItems xs ys
  | .obj xs, .obj ys => xs.length == ys.length && sameMembers xs ys
  | .bool a, b => match b.number? with
    | some n => sameNumber (.inl (if a then 1 else 0)) n
    | none => false
  | .int a, b => match b.number? with
    | some n => sameNumber (.inl a) n
    | none => false
  | .float a, b => match b.number? with
    | some n => sameNumber (.inr a) n
    | none => false
  | _, _ => false

/-- Arrays are the same when their items are, in order. -/
def sameItems : List Json → List Json → Bool
  | [], [] => true
  | x :: xs, y :: ys => same x y && sameItems xs ys
  | _, _ => false

/-- Every member has a counterpart of its name among the others. -/
def sameMembers : List (String × Json) → List (String × Json) → Bool
  | [], _ => true
  | (k, x) :: xs, ys => (match Dictionary.find? ys k with
    | some y => same x y
    | none => false) && sameMembers xs ys

end

/-- Whether a value counts as true: everything does but null, false, nought, and what is empty. -/
def truthy : Json → Bool
  | .null => false
  | .bool b => b
  | .int n => n != 0
  | .float x => !x.isZero
  | .str s => s != ""
  | .arr xs => !xs.isEmpty
  | .obj ms => !ms.isEmpty

mutual

/-- Whether all numbers in a value are finite. -/
def isFinite : Json → Bool
  | .float x => x.isFinite
  | .arr xs => areFinite xs
  | .obj ms => areFiniteMembers ms
  | _ => true

/-- Whether all numbers in some values are finite. -/
def areFinite : List Json → Bool
  | [] => true
  | x :: xs => isFinite x && areFinite xs

/-- Whether all numbers in some members are finite. -/
def areFiniteMembers : List (String × Json) → Bool
  | [] => true
  | (_, x) :: xs => isFinite x && areFiniteMembers xs

end

/-- The value itself where it counts as true, otherwise another. -/
def orElse (v other : Json) : Json := if v.truthy then v else other

/-- A text or null. -/
def ofText? : Option String → Json
  | some s => .str s
  | none => .null

example : same (.obj [("a", .int 1), ("b", .null)])
    (.obj [("b", .null), ("a", .bool true)]) = true := by
  decide +kernel

end Json

end Parley
