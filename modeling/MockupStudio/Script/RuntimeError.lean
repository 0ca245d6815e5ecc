/-
What can go wrong while a script runs.

* `TypeFault`: an operation on values it is not for;
* `RuntimeError`: everything that ends a run without a value;
* `RuntimeError.message`: the wording.
-/
import MockupStudio.Decimal.Layout

namespace MockupStudio.Script

/-- An operation on values of types it is not for. -/
inductive TypeFault where
  | pair (verb left right : String)
  | negate (type : String)
  | repeatNegative
  | arrayIndex
  | textIndex
  | objectKey (type : String)
  | index (type : String)
  | member (type : String)
  | fixtureMember (key fixture : String)
  | iterate (type : String)
  deriving Repr, DecidableEq

/-- The wording of a fault. -/
def TypeFault.message : TypeFault → String
  | pair verb left right => "Cannot " ++ verb ++ " " ++ left ++ " and " ++ right
  | negate type => "Cannot negate " ++ type
  | repeatNegative => "Cannot repeat a string a negative number of times"
  | arrayIndex => "Array index must be an integer"
  | textIndex => "String index must be an integer"
  | objectKey type => "Object key must be a string, got " ++ type
  | index type => "Cannot index " ++ type
  | member type => "Cannot access member on " ++ type
  | fixtureMember key fixture =>
    "Cannot read '" ++ key ++ "' of fixture " ++ fixture
      ++ "; fixtures are expanded after the script returns"
  | iterate type => "Cannot iterate over " ++ type

/-- Why a run ends without a value. -/
inductive RuntimeError where
  | undefinedVariable (name : String)
  | readOnly (name : String)
  | mistyped (fault : TypeFault)
  | arity (name : String) (expected got : Nat)
  | notCallable (type : String)
  | divisionByZero
  | overflow (operator : String)
  | indexOutOfBounds (index : Int) (length : Nat)
  | propertyNotFound (key : String)
  | native (name message : String)
  | breakOutsideLoop
  | continueOutsideLoop
  | stepLimit (limit : Nat)
  | callDepth (limit : Nat)
  | nestingLimit (limit : Nat)
  | valueTooDeep (limit : Nat)
  | tooLarge (operator : String)
  deriving Repr, DecidableEq

/-- The wording of an error. -/
def RuntimeError.message : RuntimeError → String
  | undefinedVariable name => "Undefined variable: " ++ name
  | readOnly name => "Cannot assign to helper '" ++ name ++ "'"
  | mistyped fault => "Type error: " ++ fault.message
  | arity name expected got =>
    "Function '" ++ name ++ "' expected " ++ toString expected ++ " arguments, got "
      ++ toString got
  | notCallable type => "Not callable: " ++ type
  | divisionByZero => "Division by zero"
  | overflow operator => "Integer overflow in " ++ operator
  | indexOutOfBounds index length =>
    "Index out of bounds: " ++ Decimal.integer index ++ " (length " ++ toString length ++ ")"
  | propertyNotFound key => "Property not found: " ++ key
  | native name message => name ++ ": " ++ message
  | breakOutsideLoop => "'break' outside loop"
  | continueOutsideLoop => "'continue' outside loop"
  | stepLimit limit => "Step limit of " ++ toString limit ++ " exceeded"
  | callDepth limit => "Call depth limit of " ++ toString limit ++ " exceeded"
  | nestingLimit limit => "Expression nesting limit of " ++ toString limit ++ " exceeded"
  | valueTooDeep limit => "Value nested deeper than " ++ toString limit
  | tooLarge operator => "Result of " ++ operator ++ " is too large"

end MockupStudio.Script
