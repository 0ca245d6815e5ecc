/-
JSON texts as data from outside.

* `Wire.ofWritten`: the parts of a JSON text;
* `Wire.readJson?`: a JSON text read as a record of some kind.
-/
import MockupStudio.Json.Reader
import MockupStudio.Wire.Basic

namespace MockupStudio.Wire

/-- A number; one written with a point, an exponent or as `-0` is no
integer. -/
def ofNumeral (n : Json.Numeral) : Wire :=
  match n.value? with
  | some (.int i) => whole i
  | _ => fraction

mutual

/-- The parts of a JSON text. -/
def ofWritten : Json.Written → Wire
  | .null => nothing
  | .bool b => switch b
  | .number n => ofNumeral n
  | .text (some s) => text s
  | .text none => unreadable
  | .array items => list (ofItems [] items) false
  | .object members => ofMembers [] members

/-- The items of an array; `done` in reverse. -/
def ofItems (done : List Wire) : List Json.Written → List Wire
  | [] => done.reverse
  | item :: items => ofItems (ofWritten item :: done) items

/-- An object from its members, all of which need keys; `done` in reverse. -/
def ofMembers (done : List (String × Wire)) : List (Option String × Json.Written) → Wire
  | [] => record done.reverse
  | (some key, item) :: members => ofMembers ((key, ofWritten item) :: done) members
  | (none, _) :: _ => unreadable

end

/-- A JSON text read as a record of some kind. -/
def readJson? (read : Wire → Option α) (s : String) : Option α :=
  (Json.read? s).bind fun w => read (ofWritten w)

end MockupStudio.Wire
