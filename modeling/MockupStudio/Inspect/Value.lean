/-
Data and values of scripts laid open as plain data, for tools that look at
them.

What plain data cannot show exactly is an object whose first key begins with
a dollar sign.

* `Inspect.float`: a float by its bits;
* `Inspect.data`: data with its floats laid open;
* `Inspect.value`: a value; functions show their parameters and the names
  they captured, built-in functions and fixtures their names.
-/
import MockupStudio.Script.Value.Text

namespace MockupStudio.Inspect

open Script

/-- Bits as sixteen digits to base sixteen. -/
def bits (n : Nat) : String :=
  let digits := Nat.toDigits 16 n
  String.ofList (List.replicate (16 - digits.length) '0' ++ digits)

/-- A float by its bits; floats that are no number are all alike. -/
def float (x : Float) : Json :=
  .object [("$float", .text (if x.isNaN then "nan" else bits x.toBits.toNat))]

/-- An optional part, null if it is not there. -/
def optional (f : α → Json) : Option α → Json
  | none => .null
  | some a => f a

/-- A list of texts. -/
def texts (ts : List String) : Json := .array (ts.map .text)

mutual

/-- Data with its floats laid open. -/
def data : Json → Json
  | .float x => float x
  | .array items => .array (dataItems [] items)
  | .object members => .object (dataMembers [] members)
  | j => j

/-- The items of an array; `done` in reverse. -/
def dataItems (done : List Json) : List Json → List Json
  | [] => done.reverse
  | item :: items => dataItems (data item :: done) items

/-- The members of an object; `done` in reverse. -/
def dataMembers (done : List (String × Json)) : List (String × Json) → List (String × Json)
  | [] => done.reverse
  | (key, item) :: members => dataMembers ((key, data item) :: done) members

end

mutual

/-- A value. -/
def value : Value → Json
  | .null => .null
  | .bool b => .bool b
  | .int n => .int n.toInt
  | .float x => float x
  | .text s => .text s
  | .array items => .array (valueItems [] items)
  | .object members => .object (Bindings.sorted (valueMembers [] members))
  | .function name parameters _ captured _ =>
    .object [("$function", .text name), ("params", texts parameters),
      ("captures", optional (fun (scope : Bindings Value) =>
        texts (Value.ascending scope.keys)) captured)]
  | .native f => .object [("$native", .text f.name), ("arity", .int f.arity)]
  | .fixture name _ _ => .object [("$fixture", .text name)]

/-- The items of an array; `done` in reverse. -/
def valueItems (done : List Json) : List Value → List Json
  | [] => done.reverse
  | item :: items => valueItems (value item :: done) items

/-- The members of an object; `done` in reverse. -/
def valueMembers (done : List (String × Json)) : List (String × Value) → List (String × Json)
  | [] => done.reverse
  | (key, item) :: members => valueMembers ((key, value item) :: done) members

end

/-- Variables with their values. -/
def scope (bindings : Bindings Value) : Json := value (.object bindings)

end MockupStudio.Inspect
