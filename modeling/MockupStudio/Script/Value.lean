/-
Values of scripts.

* `Value`: scalars, arrays, objects, functions, helpers and fixtures;
* `Recipe`: what a fixture does each time it is forced;
* `Value.typeName`, `Value.truthy`, `Value.toInt?`, `Value.toFloat?`: what
  operators ask about a value;
* `Value.countUpTo`: nesting through containers, captured variables and
  the recorded depth of fixtures, counted no further than a cap;
* `Value.nestingUpTo`: the same count with sums of 64 bits;
* `Value.ofJson`: plain data as a value.

Objects and captured variables are kept in no particular order: whatever is
shown of them is sorted first.
-/
import MockupStudio.Bindings
import MockupStudio.Decimal.Numeral
import MockupStudio.Script.Syntax
import MockupStudio.Text.Blank

namespace MockupStudio.Script

/--
What makes two function values the same function: the declaration they come
from, given by its place in the syntax tree of one run, or the step of a run
at which a lambda was evaluated.
-/
inductive FunctionId where
  | declared (run : Nat) (place : List Nat)
  | evaluated (run step : Nat)
  deriving Repr, DecidableEq, Inhabited

/-- The helpers that scripts may call. -/
inductive Helper where
  | firstName | lastName | fullName | randInt | pick | uid | some
  deriving Repr, DecidableEq, Inhabited

/-- What calling a built-in function does. -/
inductive Action where
  /-- A helper, with the largest repeat count and the depth up to which
  values are measured. -/
  | help (helper : Helper) (maxRepeat maxDepth : Nat)
  /-- Gives back the arguments as an array. -/
  | gather
  /-- Gives null. -/
  | nothing
  /-- Whatever the program around the scripts does under this number. -/
  | host (number : Nat)
  deriving Repr, DecidableEq, Inhabited

/-- A built-in function; `serial` tells apart functions that act alike. -/
structure Native where
  name : String
  /-- The number of arguments asked for, any number if negative. -/
  arity : Int
  action : Action
  serial : Nat
  deriving Repr, DecidableEq, Inhabited

mutual

/-- Values of scripts. -/
inductive Value where
  | null
  | bool (value : Bool)
  | int (value : Int64)
  | float (value : Float)
  | text (value : String)
  | array (items : List Value)
  | object (members : List (String × Value))
  /-- A function with the variables it captured, if it captured any. -/
  | function (name : String) (parameters : List String) (body : List Stmt)
      (captured : Option (List (String × Value))) (id : FunctionId)
  | native (native : Native)
  /-- A deferred computation, with the name of the helper that made it and
  the nesting of the values it may yield. -/
  | fixture (name : String) (recipe : Recipe) (depth : Nat)

/-- What a fixture does when it is forced. -/
inductive Recipe where
  | firstName
  | lastName
  | fullName
  /-- A number from `low` up to but not including `high`. -/
  | between (low high : Int)
  | choice (choices : List Value)
  /-- So many hexadecimal digits. -/
  | digits (length : Nat)
  /-- From `low` to `high` copies of a template. -/
  | copies (low high : Nat) (template : Value)
  | yields (value : Value)
  | fails (message : String)
  /-- The next number of a counter. -/
  | counts (counter : Nat)
  /-- Another fixture of the same kind, for ever. -/
  | endless (name : String)

end

instance : Inhabited Value := ⟨.null⟩
instance : Inhabited Recipe := ⟨.firstName⟩

/-- What a word of 64 bits keeps of a number: past the last word it begins again at zero. -/
def word (n : Nat) : Nat := n % twoTo 64

/-- The name of functions made by lambda expressions. -/
def lambdaName : String := "<lambda>"

namespace Value

/-- The name of a value's type. -/
def typeName : Value → String
  | null => "null"
  | bool _ => "bool"
  | int _ => "int"
  | float _ => "float"
  | text _ => "string"
  | array _ => "array"
  | object _ => "object"
  | function .. => "function"
  | native _ => "native"
  | fixture .. => "fixture"

/-- Whether a value counts as true in a condition. -/
def truthy : Value → Bool
  | null => false
  | bool b => b
  | int n => n ≠ 0
  | float x => !(x == 0) && !x.isNaN
  | text s => !s.isEmpty
  | _ => true

/-- Whether a value is an int or a float. -/
def isNumber : Value → Bool
  | int _ | float _ => true
  | _ => false

/-- Whether a value can be called. -/
def isCallable : Value → Bool
  | function .. | native _ => true
  | _ => false

/-- Whether a value is a fixture. -/
def isFixture : Value → Bool
  | fixture .. => true
  | _ => false

/-- Whether a value is null. -/
def isNull : Value → Bool
  | null => true
  | _ => false

/-- The value as an int: floats are cut off toward zero, texts are read. -/
def toInt? : Value → Option Int64
  | int n => some n
  | float x => if x.isFinite then some x.toInt64 else none
  | bool b => some (if b then 1 else 0)
  | text s => Decimal.readInteger? (Text.trim s.toList)
  | _ => none

/-- The value as a float; texts are read. -/
def toFloat? : Value → Option Float
  | int n => some n.toFloat
  | float x => some x
  | bool b => some (if b then 1 else 0)
  | text s => Decimal.readFloat? (Text.trim s.toList)
  | _ => none

/--
Nesting through arrays, objects, captured variables and the recorded depth
of fixtures, counted no further than `cap + 1`. What numbers make of a sum is left open.
-/
def nestingBy (sum : Nat → Nat) : Nat → Value → Nat
  | 0, array _ => 1
  | 0, object _ => 1
  | 0, function _ _ _ (some _) _ => 1
  | cap + 1, array items =>
    sum (1 + items.foldl (fun deepest v => max deepest (nestingBy sum cap v)) 0)
  | cap + 1, object members =>
    sum (1 + members.foldl (fun deepest m => max deepest (nestingBy sum cap m.2)) 0)
  | cap + 1, function _ _ _ (some captured) _ =>
    sum (1 + captured.foldl (fun deepest m => max deepest (nestingBy sum cap m.2)) 0)
  | cap, fixture _ _ depth => min depth (sum (cap + 1))
  | _, _ => 0

/-- The count with numbers that have no end. Runs go by it. -/
def countUpTo : Nat → Value → Nat := nestingBy id

/-- The count with words of 64 bits. Only with the last word for a cap, or with depths
next to it, does it differ from the one that runs go by. -/
def nestingUpTo : Nat → Value → Nat := nestingBy word

mutual

/-- Plain data as a value; whole numbers past 64 bits become floats. -/
def ofJson : Json → Value
  | .null => null
  | .bool b => bool b
  | .int n =>
    if Decimal.fitsInt64 n then int (Int64.ofInt n)
    else float (UInt64.ofNat n.toNat).toFloat
  | .float x => float x
  | .text s => text s
  | .array items => array (ofItems items)
  | .object members => object (ofMembers members)

/-- The items of an array as values. -/
def ofItems : List Json → List Value
  | [] => []
  | item :: items => ofJson item :: ofItems items

/-- The members of an object as values. -/
def ofMembers : List (String × Json) → List (String × Value)
  | [] => []
  | (key, item) :: members => (key, ofJson item) :: ofMembers members

end

end Value

end MockupStudio.Script
