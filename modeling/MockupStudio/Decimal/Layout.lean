/-
Decimal text of binary64 numbers.

* `Layout`: where positional notation ends, whether a whole number keeps
  `.0`, whether a positive exponent has a sign, and which way ties go;
* `Layout.write`: a number in a layout; zero keeps its sign;
* `plain`: never an exponent, as a number reads inside a text;
* `token`: as a numeral is shown in an error message.
-/
import MockupStudio.Decimal.Shortest

namespace MockupStudio.Decimal

/-- The choices of one decimal notation. -/
structure Layout where
  /-- Scientific exponents written positionally, or all of them. -/
  positional : Option (Int × Int)
  /-- Whether a whole number is written with `.0`. -/
  pointZero : Bool
  /-- Whether a nonnegative exponent is written with a plus sign. -/
  plusExponent : Bool
  tie : Tie

/-- The digits of a natural number. -/
def naturalDigits (n : Nat) : List Char := Nat.toDigits 10 n

/-- An integer with a minus sign where it is negative. -/
def integer (n : Int) : String :=
  if n < 0 then "-" ++ String.ofList (naturalDigits n.natAbs)
  else String.ofList (naturalDigits n.toNat)

/-- A decimal without exponent. -/
def Layout.positionally (layout : Layout) (d : Scaled) : List Char :=
  let digits := naturalDigits d.significand
  if 0 ≤ d.exponent then
    digits ++ List.replicate d.exponent.toNat '0'
      ++ (if layout.pointZero then ['.', '0'] else [])
  else
    let places := (-d.exponent).toNat
    if digits.length ≤ places then
      '0' :: '.' :: (List.replicate (places - digits.length) '0' ++ digits)
    else
      digits.take (digits.length - places) ++ '.' :: digits.drop (digits.length - places)

/-- A decimal with one digit before the point and an exponent. -/
def Layout.scientifically (layout : Layout) (d : Scaled) : List Char :=
  let digits := naturalDigits d.significand
  let e := d.exponent + ((digits.length : Int) - 1)
  let sign := if e < 0 then ['-'] else if layout.plusExponent then ['+'] else []
  let rest := digits.drop 1
  digits.take 1 ++ (if rest.isEmpty then [] else '.' :: rest)
    ++ 'e' :: (sign ++ naturalDigits e.natAbs)

/-- The text of a number's magnitude. -/
def Layout.magnitude (layout : Layout) (d : Dyadic) : List Char :=
  let s := shortest layout.tie d
  let e := s.exponent + ((naturalDigits s.significand).length : Int) - 1
  match layout.positional with
  | none => layout.positionally s
  | some (low, high) =>
    if s.significand = 0 ∨ (low ≤ e ∧ e ≤ high) then layout.positionally s
    else layout.scientifically s

/-- A number in a layout. -/
def Layout.write (layout : Layout) (x : Float) : String :=
  match Dyadic.ofFloat? x with
  | some d => String.ofList ((if d.negative then ['-'] else []) ++ layout.magnitude d)
  | none => if x.isNaN then "NaN" else if x < 0 then "-inf" else "inf"

/-- Numbers inside texts: never an exponent, and no `.0`. -/
def plain : Layout := ⟨none, false, false, .up⟩

/-- Numerals in error messages: an exponent below `10 ^ -4` and from
`10 ^ 16` on, otherwise always a point. -/
def token : Layout := ⟨some (-4, 15), true, false, .up⟩

end MockupStudio.Decimal
