import Parley.Text.Digit
import Parley.Number.Binary64

/-!
The shortest decimal text of a binary number.

`shortestDigits` gives the fewest digits that read back as the number, and of those the ones nearest
to it. Of every grid of decimals, coarsest first, it tests the two neighbours of the exact value
against the interval of values that round to the number; the ends belong to the interval exactly
when the significand is even.
-/

namespace Parley.Number

open Parley.Text

/-- Digits read as a whole number, and the power of ten of the place after the last of them. -/
structure DecimalDigits where
  digits : Nat
  exponent : Int
  deriving DecidableEq, Repr

/-- The number of decimal digits before the point of `num / den`, or minus the number of zeros that
follow the point: the least `k` with `num / den < 10^k`. `fuel` bounds the zeros. -/
def decimalPoint : (fuel num den : Nat) → Int
  | 0, _, _ => 0
  | fuel + 1, num, den =>
    if den ≤ num then ((Nat.toDigits 10 (num / den)).length : Int)
    else if den ≤ 10 * num then 0
    else decimalPoint fuel (10 * num) den - 1

/-- The interval of values that round to `m · 2^e`, in units of 2^(e-2), and whether its ends belong
to it. Below a power of two the numbers lie twice as dense. -/
def roundingInterval (m : Nat) (e : Int) : Nat × Nat × Bool :=
  let low := if m = Nat.pow 2 52 && Binary64.minExponent < e then 4 * m - 1 else 4 * m - 2
  (low, 4 * m + 2, m % 2 == 0)

/-- Of the decimals on the grid of `10^k`, the one nearest to `m · 2^e` that rounds to it. -/
def onGrid? (m : Nat) (e k : Int) : Option Nat :=
  let (low, high, closed) := roundingInterval m e
  -- values below are counted in units of 2^(e-2) / den, the grid in steps of num of them
  let two := Binary64.scale 1 (e - 2)
  let ten := if 0 ≤ k then (Nat.pow 10 k.toNat, 1) else (1, Nat.pow 10 (-k).toNat)
  let unit := two.1 * ten.2
  let step := ten.1 * two.2
  let value := 4 * m * unit
  let inside := fun d : Nat =>
    let x := d * step
    if closed then low * unit ≤ x && x ≤ high * unit else low * unit < x && x < high * unit
  let down := value / step
  let up := down + 1
  let gapDown := value - down * step
  let gapUp := up * step - value
  if inside down && inside up then
    some (if gapDown < gapUp then down else if gapUp < gapDown then up
      else if down % 2 = 0 then down else up)
  else if inside down then some down
  else if inside up then some up
  else none

/-- The first grid with a hit, from `n` digits upwards. -/
def firstGrid (m : Nat) (e point : Int) : (fuel n : Nat) → DecimalDigits
  | 0, _ => ⟨0, 0⟩
  | fuel + 1, n =>
    let k := point - n
    match onGrid? m e k with
    | some d => ⟨d, k⟩
    | none => firstGrid m e point fuel (n + 1)

/-- The fewest digits that read back as `m · 2^e`, and of those the nearest. -/
def shortestDigits (m : Nat) (e : Int) : DecimalDigits :=
  if m = 0 then ⟨0, 0⟩
  else
    let s := Binary64.scale m e
    firstGrid m e (decimalPoint 400 s.1 s.2) 17 1

/-- How numbers are written. -/
structure FloatFormat where
  /-- Decimal points from here up are not written out. -/
  maxPoint : Int
  /-- Decimal points from here down are not written out. -/
  minPoint : Int
  /-- Least number of digits of a written exponent. -/
  exponentDigits : Nat
  infinity : String
  nan : String

/-- Digits without the zeros at their end. -/
def trimZeros (cs : List Char) : List Char := (cs.reverse.dropWhile (· == '0')).reverse

/-- The text of a positive number whose digits are `ds` with the decimal point after `point` of
them: written out with at least one digit on each side of the point, or as a power of ten. -/
def FloatFormat.place (f : FloatFormat) (ds : List Char) (point : Int) : List Char :=
  if f.minPoint < point && point < f.maxPoint then
    if point ≤ 0 then '0' :: '.' :: List.replicate (-point).toNat '0' ++ ds
    else
      let n := point.toNat
      if ds.length ≤ n then ds ++ List.replicate (n - ds.length) '0' ++ ['.', '0']
      else ds.take n ++ '.' :: ds.drop n
  else
    let exponent := point - 1
    let shown := Nat.toDigits 10 exponent.natAbs
    let mantissa := match ds with
      | [] => []
      | [d] => [d]
      | d :: rest => d :: '.' :: rest
    mantissa ++ ['e', if exponent < 0 then '-' else '+']
      ++ List.replicate (f.exponentDigits - shown.length) '0' ++ shown

/-- The text of a number. -/
def FloatFormat.write (f : FloatFormat) : Binary64 → String
  | .nan => f.nan
  | .infinity negative => (if negative then "-" else "") ++ f.infinity
  | .finite negative m e =>
    let body := if m = 0 then ['0', '.', '0'] else
      let d := shortestDigits m e
      let ds := Nat.toDigits 10 d.digits
      f.place (trimZeros ds) (d.exponent + ds.length)
    (if negative then "-" else "") ++ String.ofList body

/-- Powers of ten from 10^-4 up to 10^15 are written out, others with an exponent of two digits or
more. -/
def plainFormat : FloatFormat := ⟨17, -4, 2, "inf", "nan"⟩

/-- The same as `plainFormat`, with other words for the infinities and the undefined number. -/
def jsonFormat : FloatFormat := ⟨17, -4, 2, "Infinity", "NaN"⟩

/-- The shortest text that reads back as the number. -/
def floatText (x : Binary64) : String := plainFormat.write x

example : floatText (.ofDecimal false 1 (-1)) = "0.1" := by decide +kernel

example : floatText (.ofInt (10 ^ 16)) = "1e+16"
    ∧ floatText (.ofInt (10 ^ 15)) = "1000000000000000.0" := by
  decide +kernel

example : floatText (.ofDecimal true 5 (-324)) = "-5e-324" := by decide +kernel

end Parley.Number
