/-
A store that lives as long as the program.

* `Shelf`: documents by their ids;
* `Shelf.store`: its operations.
-/
import MockupStudio.Bindings
import MockupStudio.Store.Basic

namespace MockupStudio

/-- Documents by their ids. -/
abbrev Shelf := Bindings Document

namespace Shelf

/-- A shelf with documents on it, the last of equal ids counting. -/
def ofDocuments (documents : List Document) : Shelf :=
  Bindings.ofList (documents.map fun d => (d.id, d))

/-- A listing of the documents. -/
def summaries (shelf : Shelf) : List Summary :=
  Summary.newestFirst (shelf.map fun (_, d) => d.summary)

/-- The document of an id. -/
def find (id : String) : Storing Shelf Document := do
  checkId id
  match Bindings.get? id (← get) with
  | some d => return d
  | none => throw (.notFound id)

/-- Saves name and sources. -/
def save (now : Timestamp) (id name : String) (sources : Sources) : Storing Shelf Unit := do
  checkId id
  modify fun shelf =>
    match Bindings.get? id shelf with
    | some d => Bindings.insert id (d.overwrite now name sources) shelf
    | none => Bindings.insert id ⟨id, name, now, sources⟩ shelf

/-- Saves one source. -/
def saveField (now : Timestamp) (id : String) (field : Stage) (text : String) :
    Storing Shelf Unit := do
  let d ← find id
  modify (Bindings.insert id (d.updateField now field text))

/-- Removes a document. -/
def remove (id : String) : Storing Shelf Unit := do
  let _ ← find id
  modify (Bindings.erase id)

/-- The operations of a shelf. -/
def store : DocumentStore Shelf where
  list := return summaries (← get)
  get := find
  save := save
  saveField := saveField
  remove := remove

end Shelf

end MockupStudio
