/-
A store behind a service that is asked over the network.

* `Request`: what is sent for a call; `Reply`: what comes back, or why
  nothing does;
* `Service.collection`, `Service.item`: the addresses of all documents and
  of one;
* `NotFoundMeans`: what it means that nothing is found at an address;
* `Service.store`: the operations, as requests and the reading of replies.
  A full save makes a document where there is none, so nothing found means
  for it, as for a listing, that the service is not there.
-/
import MockupStudio.Address.Basic
import MockupStudio.Document.Encoding
import MockupStudio.Store.Basic
import MockupStudio.Wire.OfJson

namespace MockupStudio

/-- What a request asks for. -/
inductive Method where
  | get
  | put
  | patch
  | delete
  deriving Repr, DecidableEq

/-- The name of a method. -/
def Method.name : Method → String
  | get => "GET"
  | put => "PUT"
  | patch => "PATCH"
  | delete => "DELETE"

/-- A request; what it carries is sent as JSON. -/
structure Request where
  method : Method
  address : Address
  body : Option Json := none

/-- What becomes of a request. -/
inductive Reply where
  | answered (status : Nat) (body : String)
  /-- No connection was made, or no answer came in time. -/
  | unreachable
  /-- The connection was closed without a whole answer. -/
  | cut
  deriving Repr, DecidableEq

/-- What it means that nothing is found at an address. -/
inductive NotFoundMeans where
  | noService
  | noDocument
  deriving Repr, DecidableEq

/-- A service: takes a request and gives the reply. -/
structure Service (σ : Type) where
  /-- The address under which the service is found. -/
  base : Address
  send : Request → StateM σ Reply

namespace Service

/-- The name under which a service keeps its documents. -/
def collectionName : String := "project/"

/-- The address of all documents below an address. -/
def collectionOf (base : Address) : Address := base.asDirectory.join collectionName

/-- The address of all documents. -/
def collection (service : Service σ) : Address := collectionOf service.base

/-- The address of a document. -/
def item (service : Service σ) (id : String) : Address := service.collection.join id

/-- A status with its meaning, for the two that say that a service is down. -/
def shownStatus (status : Nat) : String :=
  if status = 502 then "502 Bad Gateway" else "503 Service Unavailable"

/-- What a reply of a status carries: whatever is sent along with "no content"
does not belong to it. -/
def carried (status : Nat) (body : String) : String := if status = 204 then "" else body

/-- The body of a reply that says that all went well. -/
def accept (means : NotFoundMeans) (id : String) (target : Address) :
    Reply → Except StoreError String
  | .unreachable => .error (.unavailable none)
  | .cut => .error .transport
  | .answered status body =>
    if 200 ≤ status ∧ status < 300 then .ok (carried status body)
    else if status = 404 then
      match means with
      | .noService => .error (.unavailable (some (target.text ++ " returned 404")))
      | .noDocument => .error (.notFound id)
    else if status = 502 ∨ status = 503 then
      .error (.unavailable (some (target.text ++ " returned " ++ shownStatus status)))
    else .error (.unexpectedStatus status target.text)

/-- Sends a request and gives the body of the reply. -/
def ask (service : Service σ) (means : NotFoundMeans) (id : String) (request : Request) :
    Storing σ String := fun state =>
  let (reply, state) := service.send request state
  match accept means id request.address reply with
  | .ok body => .ok body state
  | .error e => .error e state

/-- The record a body holds. -/
def decode (read : Wire → Option α) (body : String) : Storing σ α :=
  match Wire.readJson? read body with
  | some a => pure a
  | none => throw .transport

/-- A listing of the documents. -/
def list (service : Service σ) : Storing σ (List Summary) := do
  let body ← service.ask .noService "" ⟨.get, service.collection, none⟩
  return Summary.newestFirst (← decode (Wire.list? Summary.ofWire?) body)

/-- A document; it has the id it was asked for by. -/
def get (service : Service σ) (id : String) : Storing σ Document := do
  checkId id
  let body ← service.ask .noDocument id ⟨.get, service.item id, none⟩
  return { ← decode Document.ofWire? body with id }

/-- Saves name and sources. -/
def save (service : Service σ) (id name : String) (sources : Sources) : Storing σ Unit := do
  checkId id
  let request : SaveRequest := ⟨name, sources⟩
  let _ ← service.ask .noService id ⟨.put, service.item id, some request.toJson⟩

/-- Saves one source. -/
def saveField (service : Service σ) (id : String) (field : Stage) (text : String) :
    Storing σ Unit := do
  checkId id
  let update : FieldUpdate := ⟨field, text⟩
  let _ ← service.ask .noDocument id ⟨.patch, service.item id, some update.toJson⟩

/-- Removes a document. -/
def remove (service : Service σ) (id : String) : Storing σ Unit := do
  checkId id
  let _ ← service.ask .noDocument id ⟨.delete, service.item id, none⟩

/-- The operations of a service; it has a clock of its own. -/
def store (service : Service σ) : DocumentStore σ where
  list := service.list
  get := service.get
  save := fun _ => service.save
  saveField := fun _ => service.saveField
  remove := service.remove

end Service

end MockupStudio
