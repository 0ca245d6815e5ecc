/-
A store that keeps each document in a file of a directory.

* `documentFile`, `draftFile`: the names of the file of a document and of
  the file that is written first and then takes its place;
* `Folder.load`, `Folder.save`, `Folder.saveField`, `Folder.remove`: the steps
  of the operations. The name of a file decides about the id, whatever the
  file says;
* `Folder.store`: the operations, each taking its steps alone; files that hold
  no document are left out of a listing;
* `Disk.store`: the same for a directory given by its path.
-/
import MockupStudio.Document.Encoding
import MockupStudio.Json.Writer
import MockupStudio.Store.Steps
import MockupStudio.Wire.OfJson

namespace MockupStudio

/-- The extension of document files. -/
def documentExtension : String := "json"

/-- The name of the file of a document. -/
def documentFile (id : String) : String := id ++ "." ++ documentExtension

/-- The name of the file in which a document is prepared. -/
def draftFile (id : String) : String := documentFile id ++ ".tmp"

namespace Folder

/-- The document a file text holds, under a given id. -/
def decode? (id text : String) : Option Document :=
  (Wire.readJson? Document.ofWire? text).map fun d => { d with id }

/-- The text of a document file. -/
def encode (d : Document) : String := d.toJson.pretty

/-- The document of an id. -/
def load (id : String) : Steps Document :=
  .forId id <| .read (documentFile id) fun
    | none => .failed (.notFound id)
    | some text =>
      match decode? id text with
      | some d => .done d
      | none => .failed .undecodable

/-- Writes a document: to a file of its own, which then takes the place of
the file of the document. -/
def put (d : Document) : Steps Unit :=
  .forId d.id <| .write (draftFile d.id) (encode d) <|
    .rename (draftFile d.id) (documentFile d.id) <| .done ()

/-- The document held by an entry of the directory. -/
def documentOf? (entry : String × Entry) : Option Document := do
  let id ← FileName.stem? documentExtension entry.1
  if Id.isValid id then
    match entry.2 with
    | .file text => decode? id text
    | _ => none
  else none

/-- A listing of the documents. -/
def summaries (folder : Folder) : List Summary :=
  Summary.newestFirst ((folder.filterMap documentOf?).map Document.summary)

/-- Saves name and sources. -/
def save (now : Timestamp) (id name : String) (sources : Sources) : Steps Unit :=
  .forId id <| .read (documentFile id) fun
    | none => put ⟨id, name, now, sources⟩
    | some text =>
      match decode? id text with
      | some d => put (d.overwrite now name sources)
      | none => .failed .undecodable

/-- Saves one source. -/
def saveField (now : Timestamp) (id : String) (field : Stage) (text : String) : Steps Unit :=
  (load id).andThen fun d => put (d.updateField now field text)

/-- Removes a document. -/
def remove (id : String) : Steps Unit :=
  .forId id <| .delete (documentFile id) fun
    | true => .done ()
    | false => .failed (.notFound id)

/-- The operations of a directory. -/
def store : DocumentStore Folder where
  list := return summaries (← get)
  get := fun id => (load id).alone
  save := fun now id name sources => (save now id name sources).alone
  saveField := fun now id field text => (saveField now id field text).alone
  remove := fun id => (remove id).alone

end Folder

namespace Disk

/-- A step on the entries of the directory at a path. -/
def within {σ : Type} [HasDisk σ] (path : String) (work : Storing Folder α) : Storing σ α :=
  fun s =>
    let disk := HasDisk.disk s
    match disk.walk (disk.start path) (Path.names path) with
    | .error _ => .error .file s
    | .ok directory =>
      work.onPart (fun _ => disk.listing directory)
        (fun folder => HasDisk.setDisk (disk.relist directory folder)) s

/-- The operations of the directory at a path. A directory without a name can
be used but not listed. -/
def store {σ : Type} [HasDisk σ] (path : String) : DocumentStore σ :=
  let store := Folder.store.transport (within path)
  if path = "" then { store with list := throw .file } else store

end Disk

end MockupStudio
