/-
Data as it arrives from files and services, before it is read as a record of
one kind or another.

* `Wire`: the parts a reader can tell apart; members keep their order and
  repeated keys;
* `Wire.text?`, `Wire.natural?`, …: a part read as a simple value;
* `Wire.members?`: a record read by the names of its members: unknown ones
  are passed over, a repeated known one is refused, and a list of values
  stands for the members in their order.
-/
import MockupStudio.Decimal.Power

namespace MockupStudio

/-- Data from outside. -/
inductive Wire where
  | nothing
  | switch (on : Bool)
  /-- An integer of 64 bits, with or without sign. -/
  | whole (value : Int)
  /-- Any other number. -/
  | fraction
  | text (value : String)
  /-- A list; `lax` if items after the expected ones may be passed over. -/
  | list (items : List Wire) (lax : Bool)
  | record (members : List (String × Wire))
  /-- What can be passed over but not read. -/
  | unreadable
  deriving Inhabited

namespace Wire

/-- A text. -/
def text? : Wire → Option String
  | text s => some s
  | _ => none

/-- A truth value. -/
def switch? : Wire → Option Bool
  | switch b => some b
  | _ => none

/-- A natural number of 64 bits. -/
def natural? : Wire → Option Nat
  | whole n => if 0 ≤ n ∧ n < twoTo 64 then some n.toNat else none
  | _ => none

/-- A value that may be absent. -/
def optional? (read : Wire → Option α) : Wire → Option (Option α)
  | nothing => some none
  | w => (read w).map some

/-- A list of values. -/
def list? (read : Wire → Option α) : Wire → Option (List α)
  | list items _ => items.mapM read
  | _ => none

/-- One of several names: the name itself, or a record with that name as its
only key and nothing in it. -/
def name? : Wire → Option String
  | text s => some s
  | record [(s, nothing)] => some s
  | _ => none

/-- How often a key occurs. -/
def count (key : String) (members : List (String × Wire)) : Nat :=
  members.countP (·.1 = key)

/-- The members of the given names, those that are there. -/
def members? (names : List String) : Wire → Option (List (Option Wire))
  | record members =>
    if names.any fun name => 1 < count name members then none
    else some (names.map fun name => members.lookup name)
  | list items lax =>
    if items.length ≤ names.length ∨ lax then
      some (names.zipIdx.map fun (_, i) => items[i]?)
    else none
  | _ => none

/-- Whether data is a list that is too short for a number of members. -/
def endsBefore (size : Nat) : Wire → Bool
  | list items _ => items.length < size
  | _ => false

/-- A member that must be there. -/
def required (read : Wire → Option α) (member : Option Wire) : Option α := member.bind read

/-- A member that has a value when it is not there. -/
def defaulting (value : α) (read : Wire → Option α) : Option Wire → Option α
  | none => some value
  | some w => read w

end Wire

end MockupStudio
