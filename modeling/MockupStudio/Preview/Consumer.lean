/-
Those who show a mockup.

* `RenderState`: what is shown;
* `isStateKey`: the keys under which data reaches a consumer;
* `Initializer`: what a consumer does after new data, by all it has received;
* `Consumer`: what a consumer has received, and how it sets itself up;
* `Consumer.publish`, `merge`, `deliver`: the three ways to reach it. After a
  delivery it is notified even if its own setup failed.
-/
import MockupStudio.Bindings
import MockupStudio.Preview.Slot

namespace MockupStudio

/-- What is shown of a mockup. -/
structure RenderState where
  markup : String
  style : String
  data : Json
  errors : List StageError

/-- What is shown, as an object. -/
def RenderState.toJson (s : RenderState) : Json :=
  .object [("markup", .text s.markup), ("style", .text s.style), ("data", s.data),
    ("errors", .array (s.errors.map StageError.toJson))]

/-- Whether data under a key reaches a consumer. -/
def isStateKey (key : String) : Bool :=
  !key.isEmpty && key.toList.all fun c => c.isAlphanum || c = '_' || c = '-'

/-- How the setup of a consumer went. -/
inductive Setup where
  | ready
  | refused (message : String)
  | crashed
  deriving Repr, DecidableEq, Inhabited

/-- What was wrong with a setup. -/
def Setup.complaint? : Setup → Option String
  | ready => none
  | refused message => some message
  | crashed => some "initializer panicked"

/-- How data reaches a consumer: what there is when it joins, or new data, after which
it sets itself up. -/
inductive Reception where
  | joining (data : Json)
  | new (data : Json)

/-- The data that is received. -/
def Reception.data : Reception → Json
  | joining data | new data => data

/-- The members of data that reach a consumer; data without members has
none. -/
def Consumer.stateMembers : Json → List (String × Json)
  | .object members => members.filter fun m => isStateKey m.1
  | _ => []

/--
How a consumer sets itself up after new data, by all that it has received, the latest
first, and by the state it has of it. So it may go by what it remembers of its earlier
setups, and by what it has made of its state in them. As no two setups of a consumer have
received as much, this leaves room for whatever else it has seen by then.
-/
structure Initializer where
  outcome : List Reception → Bindings Json → Setup

namespace Initializer

/-- Nothing is remembered. -/
instance : Coe (Bindings Json → Setup) Initializer := ⟨fun outcome => ⟨fun _ => outcome⟩⟩

/-- Nothing to set up. -/
def idle : Initializer := ⟨fun _ _ => .ready⟩

section Remembering

variable {μ : Type} (setUp : μ → Bindings Json → Setup × μ × Bindings Json) (memory : μ)
  (state : Bindings Json)

/-- The memory and the state after some setups, each of which may change both. -/
def remembered : List Reception → μ × Bindings Json
  | [] => (memory, state)
  | .joining data :: earlier =>
    let (memory, state) := remembered earlier
    (memory, Bindings.insertAll state (Consumer.stateMembers data))
  | .new data :: earlier =>
    let (memory, state) := remembered earlier
    (setUp memory (Bindings.insertAll state (Consumer.stateMembers data))).2

/-- An initializer with a memory and with a state of its own. -/
def remembering : Initializer where
  outcome
    | .new data :: earlier, _ =>
      let (memory, state) := remembered setUp memory state earlier
      (setUp memory (Bindings.insertAll state (Consumer.stateMembers data))).1
    | _, _ => .ready

end Remembering

end Initializer

/-- One who shows a mockup. -/
structure Consumer where
  /-- What it does after new data. -/
  setup : Initializer := .idle
  /-- The data received, by keys: the state of a consumer whose setup leaves it alone. -/
  state : Bindings Json := []
  /-- What has been received, the latest first. -/
  received : List Reception := []
  /-- What it was last told to show. -/
  last : Option RenderState := none
  publishes : Nat := 0
  notifications : Nat := 0
  setups : Nat := 0

namespace Consumer

/-- Told what to show. -/
def publish (shown : RenderState) (c : Consumer) : Consumer :=
  { c with last := some shown, publishes := c.publishes + 1 }

/-- Receives the members of data. -/
def receive (reception : Reception) (c : Consumer) : Consumer :=
  { c with
    state := Bindings.insertAll c.state (stateMembers reception.data)
    received := reception :: c.received }

/-- Receives the data there is. -/
def merge (data : Json) (c : Consumer) : Consumer := c.receive (.joining data)

/-- How it sets itself up as things are. -/
def setUp (c : Consumer) : Setup := c.setup.outcome c.received c.state

/-- Receives new data, sets itself up and is notified; gives what was wrong
with the setup. -/
def deliver (data : Json) (c : Consumer) : Option String × Consumer :=
  let c := c.receive (.new data)
  (c.setUp.complaint?,
    { c with setups := c.setups + 1, notifications := c.notifications + 1 })

end Consumer

end MockupStudio
