/-
JSON as it stands in a text, before any choice of data types.

* `Numeral`: a number as its digits; `Numeral.value?` is what it stands
  for, an integer of 64 bits where it is written as one, otherwise a float
  built from the leading digits and one power of ten;
* `Written`: the tree of a JSON text, members in the order written and
  repeated keys kept; a text in which half of a pair of units occurs stands
  for no characters;
* `Written.data?`: the plain data, refused below nesting depth 127 and when
  a number is out of range.
-/
import MockupStudio.Decimal.Numeral
import MockupStudio.Json.Basic

namespace MockupStudio.Json

/-- A number as written. -/
structure Numeral where
  negative : Bool
  whole : List Char
  /-- The digits after the point, if there is one. -/
  fraction : Option (List Char)
  /-- Whether the exponent is negative, and its digits, if there is one. -/
  exponent : Option (Bool × List Char)
  deriving Repr, DecidableEq

namespace Numeral

/--
Appends digits to a number as long as it stays below `2 ^ 64`, and gives the
digits that no longer fit.
-/
def absorb (significand : Nat) : List Char → Nat × List Char
  | [] => (significand, [])
  | c :: cs =>
    let next := 10 * significand + Decimal.digitValue c
    if next < twoTo 64 then absorb next cs else (significand, c :: cs)

/-- `10 ^ e` as a float, for the powers that are finite. -/
def power (e : Nat) : Float := Decimal.ofDecimal false 1 e

/--
A float scaled by a power of ten: one multiplication, or divisions by at most
`10 ^ 308` at a time; nothing when the result would be infinite.
-/
def scale? : Nat → Float → Int → Option Float
  | 0, f, _ => some f
  | tries + 1, f, e =>
    if 0 ≤ e ∧ e ≤ 308 then
      let scaled := f * power e.toNat
      if scaled.isFinite then some scaled else none
    else if -308 ≤ e ∧ e < 0 then some (f / power (-e).toNat)
    else if f == 0 then some f
    else if 0 ≤ e then none
    else scale? tries (f / power 308) (e + 308)

/-- A number that is not written as an integer, or too long for one. -/
def float? (negative : Bool) (significand : Nat) (e : Int) : Option Json :=
  let whole := (UInt64.ofNat significand).toFloat
  (scale? 10 whole (max e (-3000))).map fun f => float (if negative then -f else f)

/-- The exponent, with whether it is too large to be counted. -/
def exponentValue : Option (Bool × List Char) → Int × Bool
  | none => (0, false)
  | some (negative, digits) =>
    let n : Int := Decimal.naturalOf digits
    (if negative then -n else n, twoTo 31 ≤ n)

/-- What a numeral stands for; nothing if it is too large for a float. -/
def value? (n : Numeral) : Option Json :=
  let (significand, dropped) := absorb 0 n.whole
  if n.fraction.isNone && n.exponent.isNone && dropped.isEmpty then
    if !n.negative then some (int significand)
    else if significand = 0 ∨ twoTo 63 < significand then
      some (float (-(UInt64.ofNat significand).toFloat))
    else some (int (-significand))
  else
    let digits := n.fraction.getD []
    let (significand, ignored) := absorb significand digits
    let shift : Int := dropped.length - (digits.length - ignored.length : Nat)
    let (e, huge) := exponentValue n.exponent
    if huge then
      if significand ≠ 0 ∧ 0 < e then none
      else some (float (if n.negative then -0.0 else 0.0))
    else float? n.negative significand (shift + e)

end Numeral

/-- A JSON text as a tree. -/
inductive Written where
  | null
  | bool (value : Bool)
  | number (numeral : Numeral)
  | text (value : Option String)
  | array (items : List Written)
  | object (members : List (Option String × Written))
  deriving Inhabited

namespace Written

/-- Plain data of at most `depth` nested arrays and objects. -/
def dataWithin : Nat → Written → Option Json
  | _, null => some .null
  | _, bool b => some (.bool b)
  | _, number n => n.value?
  | _, text s => s.map .text
  | 0, array _ => none
  | 0, object _ => none
  | depth + 1, array items => (items.mapM (dataWithin depth)).map .array
  | depth + 1, object members =>
    (members.mapM fun (m : Option String × Written) => do
      return (← m.1, ← dataWithin depth m.2)).map ofMembers

/-- The plain data of a JSON text. -/
def data? (w : Written) : Option Json := dataWithin 127 w

end Written

end MockupStudio.Json
