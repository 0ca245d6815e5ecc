/-
What the operators of scripts do.

* `checkedInt`: an exact integer result, refused when it does not fit 64
  bits; all integer arithmetic goes through it;
* `Value.binary?`: operators between two values; `&&` and `||` yield one of
  their operands;
* `Value.unary?`: operators before a value;
* `position?`: the place that a possibly negative index stands for;
* `Value.index?`, `Value.member?`: items and members;
* `Value.iteration?`: what a loop over a value runs through.
-/
import MockupStudio.Decimal.Dyadic
import MockupStudio.Script.RuntimeError
import MockupStudio.Script.Value.Equality
import MockupStudio.Script.Value.Text

namespace MockupStudio.Script

/-- The longest text, in bytes, that `+` and `*` may produce. -/
def maxTextBytes : Nat := twoTo 24

/-- The longest array that `+` may produce. -/
def maxArrayLength : Nat := twoTo 20

/-- An exact result as an int, if it fits. -/
def checkedInt (operator : String) (n : Int) : Except RuntimeError Value :=
  if Decimal.fitsInt64 n then .ok (.int (Int64.ofInt n)) else .error (.overflow operator)

/-- So many copies of a text, one after the other. -/
def repeatText (s : String) (count : Nat) : String :=
  if s.isEmpty then "" else Nat.repeat (fun out => out ++ s) count ""

namespace Value

/-- The error that an operation is not for two values. -/
def pairFault (verb : String) (a b : Value) : Except RuntimeError Value :=
  .error (.mistyped (.pair verb a.typeName b.typeName))

/-- Arithmetic on floats, ints being converted. -/
def floatOp (verb : String) (op : Float → Float → Float) (a b : Value) :
    Except RuntimeError Value :=
  if a.isNumber && b.isNumber then
    match a.toFloat?, b.toFloat? with
    | some x, some y => .ok (.float (op x y))
    | _, _ => pairFault verb a b
  else pairFault verb a b

/-- Two texts joined, within the size limit. -/
def joinTexts (a b : String) : Except RuntimeError Value :=
  if maxTextBytes < a.utf8ByteSize + b.utf8ByteSize then .error (.tooLarge "+")
  else .ok (.text (a ++ b))

/-- Whether a value is the number zero. -/
def isZero (v : Value) : Bool :=
  v.isNumber && match v.toFloat? with
    | some x => x == 0
    | none => false

/-- `a + b`. -/
def add? (a b : Value) : Except RuntimeError Value :=
  match a, b with
  | .int m, .int n => checkedInt "+" (m.toInt + n.toInt)
  | .array xs, .array ys =>
    if maxArrayLength < xs.length + ys.length then .error (.tooLarge "+")
    else .ok (.array (xs ++ ys))
  | .text s, b => if b.isFixture then floatOp "add" (· + ·) (.text s) b else joinTexts s b.shown
  | a, .text t => if a.isFixture then floatOp "add" (· + ·) a (.text t) else joinTexts a.shown t
  | a, b => floatOp "add" (· + ·) a b

/-- `a - b`. -/
def sub? (a b : Value) : Except RuntimeError Value :=
  match a, b with
  | .int m, .int n => checkedInt "-" (m.toInt - n.toInt)
  | a, b => floatOp "subtract" (· - ·) a b

/-- A text repeated, within the size limit. -/
def repeat? (s : String) (n : Int64) : Except RuntimeError Value :=
  if n.toInt < 0 then .error (.mistyped .repeatNegative)
  else
    let count := n.toInt.toNat
    if maxTextBytes < s.utf8ByteSize * count then .error (.tooLarge "*")
    else .ok (.text (repeatText s count))

/-- `a * b`. -/
def mul? (a b : Value) : Except RuntimeError Value :=
  match a, b with
  | .int m, .int n => checkedInt "*" (m.toInt * n.toInt)
  | .text s, .int n => repeat? s n
  | .int n, .text s => repeat? s n
  | a, b => floatOp "multiply" (· * ·) a b

/-- `a / b`, integers being divided toward zero. -/
def div? (a b : Value) : Except RuntimeError Value :=
  match a, b with
  | .int m, .int n =>
    if n.toInt = 0 then .error .divisionByZero else checkedInt "/" (m.toInt.tdiv n.toInt)
  | a, b => if b.isZero then .error .divisionByZero else floatOp "divide" (· / ·) a b

/-- `a % b` with the sign of `a`; the quotient has to fit as well. -/
def mod? (a b : Value) : Except RuntimeError Value :=
  match a, b with
  | .int m, .int n =>
    if n.toInt = 0 then .error .divisionByZero
    else if Decimal.fitsInt64 (m.toInt.tdiv n.toInt) then
      checkedInt "%" (m.toInt.tmod n.toInt)
    else .error (.overflow "%")
  | a, b => if b.isZero then .error .divisionByZero else floatOp "modulo" Decimal.remainder a b

/-- Which of two floats is larger, unless one is no number. -/
def compareFloats (x y : Float) : Option Ordering :=
  if x < y then some .lt else if y < x then some .gt else if x == y then some .eq else none

/-- A comparison of two numbers or two texts; false where there is no order. -/
def compare? (test : Ordering → Bool) (a b : Value) : Except RuntimeError Value :=
  match a, b with
  | .int m, .int n => .ok (.bool (test (compare m.toInt n.toInt)))
  | .text s, .text t => .ok (.bool (test (compare s t)))
  | a, b =>
    if a.isNumber && b.isNumber then
      match a.toFloat?, b.toFloat? with
      | some x, some y =>
        .ok (.bool (match compareFloats x y with
          | some o => test o
          | none => false))
      | _, _ => .ok (.bool false)
    else pairFault "compare" a b

/-- An operator between two values that are both known. -/
def binary? (op : BinaryOp) (a b : Value) : Except RuntimeError Value :=
  match op with
  | .add => add? a b
  | .sub => sub? a b
  | .mul => mul? a b
  | .div => div? a b
  | .mod => mod? a b
  | .eq => .ok (.bool (same a b))
  | .ne => .ok (.bool (!same a b))
  | .lt => compare? Ordering.isLT a b
  | .le => compare? Ordering.isLE a b
  | .gt => compare? Ordering.isGT a b
  | .ge => compare? Ordering.isGE a b
  | .and => .ok (if a.truthy then b else a)
  | .or => .ok (if a.truthy then a else b)

/-- An operator before a value. -/
def unary? (op : UnaryOp) (v : Value) : Except RuntimeError Value :=
  match op with
  | .not => .ok (.bool (!v.truthy))
  | .neg =>
    match v with
    | .int n => checkedInt "-" (-n.toInt)
    | .float x => .ok (.float (-x))
    | v => .error (.mistyped (.negate v.typeName))

end Value

/-- The place in a sequence of some length that an index stands for; negative
ones count from the end. -/
def position? (index : Int) (length : Nat) : Option Nat :=
  if index < 0 then
    if index.natAbs ≤ length then some (length - index.natAbs) else none
  else if index.toNat < length then some index.toNat else none

namespace Value

/-- The text of a single character. -/
def ofChar (c : Char) : Value := .text c.toString

/-- An item of a sequence of values. -/
def item? (items : List Value) (index : Int) : Except RuntimeError Value :=
  match (position? index items.length).bind (items[·]?) with
  | some v => .ok v
  | none => .error (.indexOutOfBounds index items.length)

/-- A character of a text. -/
def charAt? (cs : List Char) (index : Int) : Except RuntimeError Value :=
  match (position? index cs.length).bind (cs[·]?) with
  | some c => .ok (ofChar c)
  | none => .error (.indexOutOfBounds index cs.length)

/-- A member of an object, null if there is none. -/
def memberOf (members : List (String × Value)) (key : String) : Value :=
  (Bindings.get? key members).getD .null

/-- `object[key]`. -/
def index? (object key : Value) : Except RuntimeError Value :=
  match object with
  | .array items =>
    match key with
    | .int n => item? items n.toInt
    | _ => .error (.mistyped .arrayIndex)
  | .text s =>
    match key with
    | .int n => charAt? s.toList n.toInt
    | _ => .error (.mistyped .textIndex)
  | .object members =>
    match key with
    | .text s => .ok (memberOf members s)
    | .int n => .ok (memberOf members (Decimal.integer n.toInt))
    | v => .error (.mistyped (.objectKey v.typeName))
  | v => .error (.mistyped (.index v.typeName))

/-- The names under which a length can be read. -/
def isLengthKey (key : String) : Bool := key = "length" || key = "len"

/-- `object.key`. -/
def member? (object : Value) (key : String) : Except RuntimeError Value :=
  match object with
  | .object members => .ok (memberOf members key)
  | .array items =>
    if isLengthKey key then .ok (.int (Int64.ofNat items.length))
    else .error (.propertyNotFound key)
  | .text s =>
    if isLengthKey key then .ok (.int (Int64.ofNat s.length))
    else .error (.propertyNotFound key)
  | .fixture name .. => .error (.mistyped (.fixtureMember key name))
  | v => .error (.mistyped (.member v.typeName))

/-- The items of an array, the characters of a text, or the keys of an object
in ascending order. -/
def iteration? (v : Value) : Except RuntimeError (List Value) :=
  match v with
  | .array items => .ok items
  | .text s => .ok (s.toList.map ofChar)
  | .object members => .ok ((ascending (Bindings.keys members)).map .text)
  | v => .error (.mistyped (.iterate v.typeName))

end Value

/-- Whether the left operand alone decides the outcome. -/
def BinaryOp.decidedBy (op : BinaryOp) (left : Value) : Bool :=
  match op with
  | .and => !left.truthy
  | .or => left.truthy
  | _ => false

end MockupStudio.Script
