/-
When two values are equal.

* `Value.same`: scalars by value, an int and a float as floats, arrays item
  by item, objects key by key, functions and helpers by identity; fixtures
  are never equal, since two expansions need not agree.
-/
import MockupStudio.Script.Value

namespace MockupStudio.Script.Value

mutual

/-- Whether two values are equal. -/
def same : Value → Value → Bool
  | null, null => true
  | bool a, bool b => a = b
  | int a, int b => a = b
  | float a, float b => a == b
  | int a, float b => a.toFloat == b
  | float a, int b => b.toFloat == a
  | text a, text b => a = b
  | array as, array bs => sameItems as bs
  | object as, object bs => as.length = bs.length && sameMembers as bs
  | function _ _ _ _ a, function _ _ _ _ b => a = b
  | native a, native b => a = b
  | _, _ => false

/-- Whether two arrays are equal item by item. -/
def sameItems : List Value → List Value → Bool
  | [], [] => true
  | a :: as, b :: bs => if same a b then sameItems as bs else false
  | _, _ => false

/-- Whether each member of the first object is one of the second. -/
def sameMembers : List (String × Value) → List (String × Value) → Bool
  | [], _ => true
  | (key, a) :: as, bs =>
    match Bindings.get? key bs with
    | some b => if same a b then sameMembers as bs else false
    | none => false

end

end MockupStudio.Script.Value
