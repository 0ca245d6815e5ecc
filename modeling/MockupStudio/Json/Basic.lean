/-
Plain data: what a sample is made of and what files and requests carry.

* `Json`: null, booleans, integers, floats, texts, arrays and objects,
  an object being its members in the order they are written out;
* `Members.sorted`: members in ascending key order, the last of equal keys
  kept;
* `Json.find?`: a member of an object by its key.
-/
namespace MockupStudio

/-- Plain data. -/
inductive Json where
  | null
  | bool (value : Bool)
  | int (value : Int)
  | float (value : Float)
  | text (value : String)
  | array (items : List Json)
  | object (members : List (String × Json))
  deriving Inhabited

namespace Members

/-- Whether a member comes no later than another in key order. -/
def keyLe (a b : String × α) : Bool := a.1 ≤ b.1

/-- Of neighbours with equal keys, the last. -/
def lastOfEqual : List (String × α) → List (String × α)
  | [] => []
  | [m] => [m]
  | m :: n :: rest =>
    if m.1 = n.1 then lastOfEqual (n :: rest) else m :: lastOfEqual (n :: rest)

/-- Members in ascending key order, of equal keys the last one given. -/
def sorted (members : List (String × α)) : List (String × α) :=
  lastOfEqual (members.mergeSort keyLe)

end Members

namespace Json

/-- The member of an object with a given key. -/
def find? (key : String) : Json → Option Json
  | object members => members.lookup key
  | _ => none

/-- An object with its members in ascending key order. -/
def ofMembers (members : List (String × Json)) : Json := object (Members.sorted members)

end Json

end MockupStudio
