/-
The text of a value, as it appears when a value is joined to a string.

* `Value.shown`: scalars as they are written, arrays in brackets, objects in
  braces with their members in order of their own texts; functions, helpers
  and fixtures by name.
-/
import MockupStudio.Decimal.Layout
import MockupStudio.Script.Value

namespace MockupStudio.Script.Value

/-- Texts separated by a comma and a space. -/
def joined (texts : List String) : String := String.intercalate ", " texts

/-- Texts in ascending order. -/
def ascending (texts : List String) : List String := texts.mergeSort fun a b => a ≤ b

mutual

/-- The text of a value. -/
def shown : Value → String
  | null => "null"
  | bool b => if b then "true" else "false"
  | int n => Decimal.integer n.toInt
  | float x => Decimal.plain.write x
  | text s => s
  | array items => "[" ++ joined (shownItems [] items) ++ "]"
  | object members => "\x7b" ++ joined (ascending (shownMembers [] members)) ++ "\x7d"
  | function name .. => "<function " ++ name ++ ">"
  | native f => "<native " ++ f.name ++ ">"
  | fixture name .. => "<fixture " ++ name ++ ">"

/-- The texts of the items of an array; `done` in reverse. -/
def shownItems (done : List String) : List Value → List String
  | [] => done.reverse
  | v :: vs => shownItems (shown v :: done) vs

/-- The texts of the members of an object; `done` in reverse. -/
def shownMembers (done : List String) : List (String × Value) → List String
  | [] => done.reverse
  | (key, v) :: ms => shownMembers ((key ++ ": " ++ shown v) :: done) ms

end

end MockupStudio.Script.Value
