/-
Stores of documents.

* `Storing`: a step that reads and changes what a store holds and may fail;
  what was changed before a failure stays changed;
* `DocumentStore`: the operations of a store; those that note a change are
  given the reading of the clock;
* `DocumentStore.rename`: a new name, the sources staying as they are;
* `DocumentStore.transport`: a store whose steps are carried out on another
  state.
-/
import MockupStudio.Document.Basic
import MockupStudio.Store.Error

namespace MockupStudio

/-- A step on the contents of a store. -/
abbrev Storing (σ α : Type) := EStateM StoreError σ α

/-- The operations of a store whose contents are of type `σ`. -/
structure DocumentStore (σ : Type) where
  /-- All documents, newest first. -/
  list : Storing σ (List Summary)
  /-- A document. -/
  get : String → Storing σ Document
  /-- Saves name and sources, of a new document if there is none. -/
  save : Timestamp → String → String → Sources → Storing σ Unit
  /-- Saves one source of a document. -/
  saveField : Timestamp → String → Stage → String → Storing σ Unit
  /-- Removes a document. -/
  remove : String → Storing σ Unit

namespace DocumentStore

/-- Gives a document a new name: reads it, then saves it under that name. -/
def rename (store : DocumentStore σ) (now : Timestamp) (id name : String) :
    Storing σ Unit := do
  let document ← store.get id
  store.save now id name document.sources

/-- The same operations on another state. -/
def transport (carry : {α : Type} → Storing σ α → Storing τ α) (store : DocumentStore σ) :
    DocumentStore τ where
  list := carry store.list
  get := fun id => carry (store.get id)
  save := fun now id name sources => carry (store.save now id name sources)
  saveField := fun now id stage text => carry (store.saveField now id stage text)
  remove := fun id => carry (store.remove id)

end DocumentStore

/-- A step on a part of a state. -/
def Storing.onPart (part : τ → σ) (replace : σ → τ → τ) (work : Storing σ α) : Storing τ α :=
  fun state =>
    match work (part state) with
    | .ok a s => .ok a (replace s state)
    | .error e s => .error e (replace s state)

/-- Refuses a text that is no id. -/
def checkId (id : String) : Storing σ Unit :=
  if Id.isValid id then pure () else throw (.invalidId id)

end MockupStudio
