/-!
Binary floating-point numbers of 64 bits, as exact data.

A finite number is a sign, a significand below 2^53 and an exponent: its value is significand ·
2^exponent. The numbers built here are in normal form (a significand below 2^52 has the least
exponent), so two of them are the same datum exactly when their bits are the same; all not-a-number
patterns are one. Every operation computes its result exactly, on natural numbers and integers, and
rounds once, to the nearest number and to the even one of two that are equally near.
-/

namespace Parley.Number

/-- A binary floating-point number of 64 bits. -/
inductive Binary64 where
  | finite (negative : Bool) (significand : Nat) (exponent : Int)
  | infinity (negative : Bool)
  | nan
  deriving DecidableEq, Repr

namespace Binary64

/-- The exponent of the numbers nearest to zero. -/
def minExponent : Int := -1074

/-- The exponent of the largest finite numbers. -/
def maxExponent : Int := 971

/-- Positive zero. -/
def zero : Binary64 := .finite false 0 minExponent

/-- `num / den` rounded to an integer, a half to the even neighbour. -/
def roundHalfEven (num den : Nat) : Nat :=
  let q := num / den
  let r := num % den
  if 2 * r < den then q else if den < 2 * r then q + 1 else if q % 2 = 0 then q else q + 1

/-- `n · 2^e` as a ratio of natural numbers. -/
def scale (n : Nat) (e : Int) : Nat × Nat :=
  if 0 ≤ e then (n * Nat.pow 2 e.toNat, 1) else (n, Nat.pow 2 (-e).toNat)

/-- The exponent of the number next to `num / den`, so that the significand has 53 binary digits, or
fewer at the least exponent. -/
def exponentOf (num den : Nat) : Int :=
  let e : Int := (num.log2 : Int) - den.log2 - 52
  let least := Nat.pow 2 52
  let low := if 0 ≤ e then num < least * (den * Nat.pow 2 e.toNat)
    else num * Nat.pow 2 (-e).toNat < least * den
  max (if low then e - 1 else e) minExponent

/-- The number nearest to `num / den`, with the given sign. -/
def ofRatio (negative : Bool) (num den : Nat) : Binary64 :=
  if num = 0 || den = 0 then .finite negative 0 minExponent
  else
    let e := exponentOf num den
    let m := if 0 ≤ e then roundHalfEven num (den * Nat.pow 2 e.toNat)
      else roundHalfEven (num * Nat.pow 2 (-e).toNat) den
    let (m, e) := if m = Nat.pow 2 53 then (Nat.pow 2 52, e + 1) else (m, e)
    if maxExponent < e then .infinity negative else .finite negative m e

/-- The number nearest to an integer. -/
def ofInt (n : Int) : Binary64 := ofRatio (n < 0) n.natAbs 1

/-- The number nearest to `digits · 10^exponent`. -/
def ofDecimal (negative : Bool) (digits : Nat) (exponent : Int) : Binary64 :=
  if 0 ≤ exponent then ofRatio negative (digits * Nat.pow 10 exponent.toNat) 1
  else ofRatio negative digits (Nat.pow 10 (-exponent).toNat)

/-- The value `significand · 2^exponent` with its sign, in units of 2^-1074, of a finite number. -/
def units? : Binary64 → Option Int
  | .finite negative m e =>
    let n : Int := (m * Nat.pow 2 (e - minExponent).toNat : Nat)
    some (if negative then -n else n)
  | _ => none

/-- The number nearest to `n` units of 2^-1074; a zero is negative only when `negativeZero` is. -/
def ofUnits (negativeZero : Bool) (n : Int) : Binary64 :=
  if n = 0 then .finite negativeZero 0 minExponent
  else ofRatio (n < 0) n.natAbs (Nat.pow 2 1074)

/-- Whether the sign is negative. -/
def isNegative : Binary64 → Bool
  | .finite negative _ _ => negative
  | .infinity negative => negative
  | .nan => false

/-- Whether the number is neither infinite nor undefined. -/
def isFinite : Binary64 → Bool
  | .finite _ _ _ => true
  | _ => false

/-- Whether the number is a zero of either sign. -/
def isZero : Binary64 → Bool
  | .finite _ m _ => m == 0
  | _ => false

/-- The integer that a finite number without a fraction is. -/
def toInt? : Binary64 → Option Int
  | .finite negative m e =>
    if 0 ≤ e then
      let n : Int := (m * Nat.pow 2 e.toNat : Nat)
      some (if negative then -n else n)
    else
      let d := Nat.pow 2 (-e).toNat
      if m % d = 0 then
        let n : Int := (m / d : Nat)
        some (if negative then -n else n)
      else none
  | _ => none

/-- The sum, rounded once. Opposite infinities have none; opposite equal numbers give positive
zero. -/
def add : Binary64 → Binary64 → Binary64
  | .nan, _ => .nan
  | _, .nan => .nan
  | .infinity a, .infinity b => if a = b then .infinity a else .nan
  | .infinity a, _ => .infinity a
  | _, .infinity b => .infinity b
  | .finite a m e, .finite b n f =>
    match units? (.finite a m e), units? (.finite b n f) with
    | some x, some y => ofUnits (a && b) (x + y)
    | _, _ => .nan

/-- The product, rounded once. Zero times infinity has none. -/
def mul : Binary64 → Binary64 → Binary64
  | .nan, _ => .nan
  | _, .nan => .nan
  | .infinity a, .infinity b => .infinity (a != b)
  | .infinity a, .finite b n _ => if n = 0 then .nan else .infinity (a != b)
  | .finite a m _, .infinity b => if m = 0 then .nan else .infinity (a != b)
  | .finite a m e, .finite b n f =>
    let s := scale (m * n) (e + f)
    ofRatio (a != b) s.1 s.2

/-- Strictly smaller; nothing is smaller or larger than an undefined number. -/
def lt : Binary64 → Binary64 → Bool
  | .nan, _ => false
  | _, .nan => false
  | .infinity a, .infinity b => a && !b
  | .infinity a, .finite _ _ _ => a
  | .finite _ _ _, .infinity b => !b
  | .finite a m e, .finite b n f =>
    match units? (.finite a m e), units? (.finite b n f) with
    | some x, some y => x < y
    | _, _ => false

/-- Equal in value: the two zeros are equal, an undefined number equals nothing. -/
def same : Binary64 → Binary64 → Bool
  | .nan, _ => false
  | _, .nan => false
  | .infinity a, .infinity b => a == b
  | .finite a m e, .finite b n f => units? (.finite a m e) == units? (.finite b n f)
  | _, _ => false

/-- Smaller or equal. -/
def le (x y : Binary64) : Bool := lt x y || same x y

/-- Equal in value to an integer, compared exactly. -/
def isInt (x : Binary64) (n : Int) : Bool := x.toInt? == some n

example : ofDecimal false 1 (-1) = .finite false 7205759403792794 (-56) := by decide +kernel

example : add (ofDecimal false 1 (-1)) (ofDecimal false 2 (-1))
    = ofDecimal false 30000000000000004 (-17) := by
  decide +kernel

example : lt (ofInt 1) (ofInt 2) = true ∧ same (ofInt 0) (mul (ofInt (-1)) (ofInt 0)) = true := by
  decide +kernel

end Binary64

end Parley.Number
