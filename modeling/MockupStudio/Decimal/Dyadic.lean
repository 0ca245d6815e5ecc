/-
Binary64 numbers as integers times a power of two.

* `Dyadic`: a sign, a magnitude `mantissa * 2 ^ exponent`;
* `Dyadic.ofFloat?`: the exact value of a finite number;
* `nearestBits`: the binary64 pattern nearest to a quotient of naturals,
  an exact half going to the even neighbour, infinity past the last one;
* `Dyadic.toFloat`: back to binary64;
* `remainder`: the remainder of division toward zero, computed exactly.
-/
import MockupStudio.Decimal.Power

namespace MockupStudio.Decimal

/-- A signed number `± mantissa * 2 ^ exponent`. -/
structure Dyadic where
  negative : Bool
  mantissa : Nat
  exponent : Int
  deriving Repr, DecidableEq

/-- The sign bit of a binary64 pattern. -/
def signOfBits (bits : Nat) : Bool := bits / twoTo 63 % 2 = 1

/-- The value of a binary64 pattern, unless it is infinite or no number. -/
def Dyadic.ofBits? (bits : Nat) : Option Dyadic :=
  let field : Nat := bits / twoTo 52 % twoTo 11
  let fraction : Nat := bits % twoTo 52
  if field = 2047 then none
  else if field = 0 then some ⟨signOfBits bits, fraction, -1074⟩
  else some ⟨signOfBits bits, fraction + twoTo 52, (field : Int) - 1075⟩

/-- The exact value of a finite number. -/
def Dyadic.ofFloat? (x : Float) : Option Dyadic := ofBits? x.toBits.toNat

/-- `num / den` to the nearest natural, an exact half to the even one. -/
def roundQuotient (num den : Nat) : Nat :=
  let q := num / den
  let r := num % den
  if 2 * r < den then q
  else if den < 2 * r then q + 1
  else if q % 2 = 0 then q else q + 1

/-- The largest `e` with `2 ^ e ≤ num / den`, for positive `num` and `den`. -/
def binaryExponent (num den : Nat) : Int :=
  let guess : Int := (num.log2 : Int) - (den.log2 : Int)
  let fits := if 0 ≤ guess then den * twoTo guess.toNat ≤ num
    else den ≤ num * twoTo (-guess).toNat
  if fits then guess else guess - 1

/-- The pattern of the nonnegative binary64 number nearest to `num / den`. -/
def nearestBits (num den : Nat) : Nat :=
  if num = 0 then 0
  else
    let q := max (-1074) (binaryExponent num den - 52)
    let mantissa := if 0 ≤ q then roundQuotient num (den * twoTo q.toNat)
      else roundQuotient (num * twoTo (-q).toNat) den
    min ((q + 1074).toNat * twoTo 52 + mantissa) (2047 * twoTo 52)

/-- The binary64 number with a sign and a magnitude pattern. -/
def floatOfSignBits (negative : Bool) (bits : Nat) : Float :=
  Float.ofBits (UInt64.ofNat (if negative then bits + twoTo 63 else bits))

/-- The binary64 number nearest to a dyadic one. -/
def Dyadic.toFloat (d : Dyadic) : Float :=
  let bits := if 0 ≤ d.exponent then nearestBits (d.mantissa * twoTo d.exponent.toNat) 1
    else nearestBits d.mantissa (twoTo (-d.exponent).toNat)
  floatOfSignBits d.negative bits

/-- The quiet pattern that is no number. -/
def notANumber : Float := Float.ofBits 0x7ff8000000000000

/--
The remainder of `x / y` with the quotient cut off toward zero; it has the
sign of `x`, and is no number when `x` is infinite or `y` is zero.
-/
def remainder (x y : Float) : Float :=
  match Dyadic.ofFloat? x, Dyadic.ofFloat? y with
  | some a, some b =>
    if b.mantissa = 0 then notANumber
    else
      let e := min a.exponent b.exponent
      let ma := a.mantissa * twoTo (a.exponent - e).toNat
      let mb := b.mantissa * twoTo (b.exponent - e).toNat
      Dyadic.toFloat ⟨a.negative, ma % mb, e⟩
  | some _, none => if y.isNaN then notANumber else x
  | none, _ => notANumber

end MockupStudio.Decimal
