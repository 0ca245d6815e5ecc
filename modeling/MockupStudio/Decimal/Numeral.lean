/-
Reading numbers from text.

* `readInteger?`, `readNatural?`: an optional sign and decimal digits, within
  64 bits;
* `ofDecimal`: the binary64 number nearest to a decimal;
* `readFloat?`: an optional sign, then `inf`, `infinity` or `nan` in any
  case, or digits with at most one point and an optional exponent.
-/
import MockupStudio.Decimal.Dyadic

namespace MockupStudio.Decimal

/-- The value of a decimal digit. -/
def digitValue (c : Char) : Nat := c.toNat - '0'.toNat

/-- The natural number written by decimal digits. -/
def naturalOf (digits : List Char) : Nat :=
  digits.foldl (fun n c => 10 * n + digitValue c) 0

/-- Whether an integer fits 64 bits with a sign. -/
def fitsInt64 (n : Int) : Bool := -(twoTo 63 : Int) ≤ n && n < (twoTo 63 : Int)

/-- An optional sign: whether it is a minus, and what follows. -/
def splitSign : List Char → Bool × List Char
  | '-' :: cs => (true, cs)
  | '+' :: cs => (false, cs)
  | cs => (false, cs)

/-- A signed decimal integer of at most 64 bits. -/
def readInteger? (cs : List Char) : Option Int64 :=
  let (negative, digits) := splitSign cs
  if digits.isEmpty || !digits.all Char.isDigit then none
  else
    let n : Int := if negative then -(naturalOf digits : Int) else naturalOf digits
    if fitsInt64 n then some (Int64.ofInt n) else none

/-- An unsigned decimal integer of at most 64 bits; a plus may stand before
it. -/
def readNatural? (cs : List Char) : Option Nat :=
  let digits := match cs with
    | '+' :: rest => rest
    | cs => cs
  if digits.isEmpty || !digits.all Char.isDigit then none
  else
    let n := naturalOf digits
    if n < twoTo 64 then some n else none

example : readNatural? "+007".toList = some 7 := by decide
example : readNatural? "+".toList = none := by decide

/-- The pattern nearest to `significand * 10 ^ exponent`. -/
def decimalBits (significand : Nat) (exponent : Int) : Nat :=
  let top := exponent + ((Nat.toDigits 10 significand).length : Int)
  if significand = 0 ∨ top < -400 then 0
  else if 400 < top then 2047 * twoTo 52
  else nearestBits (significand * tenTo exponent.toNat) (tenTo (-exponent).toNat)

/-- The binary64 number nearest to `± significand * 10 ^ exponent`. -/
def ofDecimal (negative : Bool) (significand : Nat) (exponent : Int) : Float :=
  floatOfSignBits negative (decimalBits significand exponent)

/-- An exponent after its mark: an optional sign and at least one digit. -/
def readExponent? : List Char → Option Int
  | [] => some 0
  | c :: cs =>
    if c = 'e' ∨ c = 'E' then
      let (negative, digits) := splitSign cs
      if digits.isEmpty || !digits.all Char.isDigit then none
      else some (if negative then -(naturalOf digits : Int) else naturalOf digits)
    else none

/-- A magnitude: digits, a point and digits, an exponent. -/
def readMagnitude? (negative : Bool) (cs : List Char) : Option Float :=
  let (whole, rest) := cs.span Char.isDigit
  let (fraction, rest) := match rest with
    | '.' :: rest => rest.span Char.isDigit
    | rest => ([], rest)
  if whole.isEmpty && fraction.isEmpty then none
  else (readExponent? rest).map fun e =>
    ofDecimal negative (naturalOf (whole ++ fraction)) (e - fraction.length)

/-- A number as text, surrounding blanks excluded. -/
def readFloat? (cs : List Char) : Option Float :=
  let (negative, body) := splitSign cs
  let word := body.map Char.toLower
  if word = ['n', 'a', 'n'] then some notANumber
  else if word = "inf".toList ∨ word = "infinity".toList then
    some (floatOfSignBits negative (2047 * twoTo 52))
  else readMagnitude? negative body

end MockupStudio.Decimal
