/-
The shortest decimal that reads back as a given binary64 number.

* `Scaled`: a natural times a power of ten;
* `Rounding`: the decimals that read back as one number, an interval whose
  ends belong to it exactly when the mantissa is even;
* `shortest`: of the decimals with the fewest digits in the interval, the
  one nearest to the number.

On the grid of multiples of `10 ^ k` only the two neighbours of the number
have to be tried: if any point of the grid is in the interval, so is one of
them.
-/
import MockupStudio.Decimal.Dyadic

namespace MockupStudio.Decimal

/-- The number `significand * 10 ^ exponent`. -/
structure Scaled where
  significand : Nat
  exponent : Int
  deriving Repr, DecidableEq

/-- Which way a decimal exactly between two neighbours goes. -/
inductive Tie
  | up
  | even
  deriving Repr, DecidableEq

/--
A positive number `value / scale` and the ends of the interval that rounds
to it, all over one denominator.
-/
structure Rounding where
  low : Nat
  value : Nat
  high : Nat
  scale : Nat
  closed : Bool

/-- The interval of a positive dyadic number in its binary64 form. -/
def Rounding.ofDyadic (d : Dyadic) : Rounding :=
  let below := if d.mantissa = twoTo 52 ∧ -1074 < d.exponent then 1 else 2
  let e := d.exponent - 2
  let up := twoTo e.toNat
  { low := (4 * d.mantissa - below) * up
    value := 4 * d.mantissa * up
    high := (4 * d.mantissa + 2) * up
    scale := twoTo (-e).toNat
    closed := d.mantissa % 2 = 0 }

/-- Whether `n * 10 ^ k` lies in the interval. -/
def Rounding.holds (r : Rounding) (n : Nat) (k : Int) : Bool :=
  let point := n * tenTo k.toNat * r.scale
  let stretch := tenTo (-k).toNat
  if r.closed then r.low * stretch ≤ point && point ≤ r.high * stretch
  else r.low * stretch < point && point < r.high * stretch

/-- The point of the grid `10 ^ k` in the interval that is nearest to the
value, if there is one. -/
def Rounding.onGrid (r : Rounding) (tie : Tie) (k : Int) : Option Scaled :=
  let num := r.value * tenTo (-k).toNat
  let den := r.scale * tenTo k.toNat
  let n := num / den
  let rest := num % den
  match r.holds n k, r.holds (n + 1) k with
  | false, false => none
  | true, false => some ⟨n, k⟩
  | false, true => some ⟨n + 1, k⟩
  | true, true =>
    if 2 * rest < den then some ⟨n, k⟩
    else if den < 2 * rest then some ⟨n + 1, k⟩
    else match tie with
      | .up => some ⟨n + 1, k⟩
      | .even => if n % 2 = 0 then some ⟨n, k⟩ else some ⟨n + 1, k⟩

/-- The number of decimal digits of a natural, at least one. -/
def digitCount (n : Nat) : Nat := (Nat.toDigits 10 n).length

/-- The largest `e` with `10 ^ e ≤ num / den`, for positive `num` and `den`. -/
def decimalExponent (num den : Nat) : Int :=
  if den ≤ num then (digitCount (num / den) : Int) - 1
  else
    let guess : Int := (digitCount num : Int) - (digitCount den : Int)
    if den ≤ num * tenTo (-guess).toNat then guess else guess - 1

/-- The first of the grids `10 ^ k`, `10 ^ (k - 1)`, … with a point in the
interval. -/
def Rounding.search (r : Rounding) (tie : Tie) : Nat → Int → Scaled
  | 0, k => ⟨r.value * tenTo (-k).toNat / (r.scale * tenTo k.toNat), k⟩
  | tries + 1, k =>
    match r.onGrid tie k with
    | some d => d
    | none => search r tie tries (k - 1)

/-- A decimal without the zeros at the end of its significand. -/
def Scaled.stripped : Nat → Scaled → Scaled
  | 0, d => d
  | tries + 1, d =>
    if d.significand ≠ 0 ∧ d.significand % 10 = 0 then
      stripped tries ⟨d.significand / 10, d.exponent + 1⟩
    else d

/-- The shortest decimal that reads back as a dyadic number's magnitude. -/
def shortest (tie : Tie) (d : Dyadic) : Scaled :=
  if d.mantissa = 0 then ⟨0, 0⟩
  else
    let r := Rounding.ofDyadic d
    (r.search tie 17 (decimalExponent r.value r.scale)).stripped 18

end MockupStudio.Decimal
