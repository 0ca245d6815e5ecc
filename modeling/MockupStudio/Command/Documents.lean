/-
The commands on documents.

* `list`, `show`, `sample`, `remove`: need the store alone;
* `readSources`, `importFrom`, `exportTo`: read and write files as well;
* `openStore`: the store that the options ask for.

Each gives the text to be printed. A command that needs a preview opens a
new one, so equal seeds give equal samples.
-/
import MockupStudio.Command.Options
import MockupStudio.Preview.Archive
import MockupStudio.Preview.Bundle
import MockupStudio.Preview.Session
import MockupStudio.Store.Directory
import MockupStudio.Store.Remote

namespace MockupStudio.Command

variable {σ : Type}

/-- The store that the options ask for: a service, or else a directory, which
is made if it is not there. -/
def openStore [HasDisk σ] (send : Request → StateM σ Reply) (options : Options) :
    Commanding σ (DocumentStore σ) :=
  match options.remote with
  | some address =>
    match Address.read address with
    | .ok base => return Service.store ⟨base, send⟩
    | .error e => throw (.store (.address e))
  | none => fun s =>
    match (HasDisk.disk s).makeDirectories options.storeDirectory with
    | .ok disk => .ok (Disk.store options.storeDirectory) (HasDisk.setDisk disk s)
    | .error _ => .error (.store .file) s

/-- Where the samples of a command take their draws from. -/
def supply (options : Options) : Script.Supply :=
  { source := .seeded (UInt64.ofNat (options.seed.getD 0)) }

/-- A preview with a document of the store in it. -/
def openPreview (store : DocumentStore σ) (options : Options) (id : String) :
    Commanding σ Preview := fun contents =>
  let session : Session σ :=
    { preview := Preview.create id options.settings (supply options), contents }
  match session.openDocument store with
  | (.ok (), session) => .ok session.preview session.contents
  | (.error e, session) => .error (.preview e) session.contents

/-! ### Documents -/

/-- A text with blanks after it, to a given number of characters. -/
def padded (width : Nat) (text : String) : String :=
  text ++ String.ofList (List.replicate (width - text.length) ' ')

/-- The line of a document in a listing. -/
def listLine (width : Nat) (s : Summary) : String :=
  padded width s.id ++ "  " ++ s.modifiedAt.shown ++ "  " ++ s.name ++ "\n"

/-- The text of a listing. -/
def listText : List Summary → String
  | [] => "No documents.\n"
  | summaries =>
    let width := (summaries.map (·.id.utf8ByteSize)).foldl max 0
    String.join (summaries.map (listLine width))

/-- All documents. -/
def list (store : DocumentStore σ) : Commanding σ String := do
  return listText (← Commanding.ofStoring store.list)

/-- What is shown of a document. -/
def «show» (store : DocumentStore σ) (options : Options) (id : String) :
    Commanding σ String := do
  let preview ← openPreview store options id
  return preview.renderState.toJson.pretty ++ "\n"

/-- Samples of a preview, one after the other. -/
def samples : Nat → Preview → Except CommandError (List Json)
  | 0, _ => .ok []
  | n + 1, preview =>
    match preview.refreshSample with
    | (.ok data, preview) => (samples n preview).map (data :: ·)
    | (.error e, _) => .error (.preview e)

/-- Fresh samples of a document, each on a line of its own. -/
def sample (store : DocumentStore σ) (options : Options) (id : String) (count : Nat) :
    Commanding σ String := do
  let preview ← openPreview store options id
  match (preview.slot .script).error with
  | some e => throw (.script e.message)
  | none =>
    match samples count preview with
    | .ok data => return String.join (data.map fun d => d.compact ++ "\n")
    | .error e => throw e

/-- Removes a document. -/
def remove (store : DocumentStore σ) (id : String) : Commanding σ String := do
  Commanding.ofStoring (store.remove id)
  return "Removed " ++ id ++ "\n"

/-! ### Documents and files -/

/-- The text of a part from its file; a file that is not there is empty. -/
def readSource (disk : Disk) (directory : String) (stage : Stage) : Except FileFault String :=
  match disk.read (Path.join directory stage.fileName) with
  | .error .missing => .ok ""
  | outcome => outcome

/-- The texts of all parts from their files. -/
def readSources (directory : String) (disk : Disk) : Except FileFault Sources := do
  let markup ← readSource disk directory .markup
  let style ← readSource disk directory .style
  let script ← readSource disk directory .script
  return ⟨markup, style, script⟩

/-- Saves the files of a directory as a document. -/
def importFrom [HasDisk σ] (store : DocumentStore σ) (now : Timestamp) (id directory : String)
    (name : Option String) : Commanding σ String := do
  Commanding.ofStoring (checkId id)
  let sources ← Commanding.reading (readSources directory)
  Commanding.ofStoring (store.save now id (name.getD id) sources)
  return "Imported " ++ id ++ " from " ++ directory ++ "\n"

/-- The files of a document to take away. -/
def bundle (store : DocumentStore σ) (options : Options) (id : String) :
    Commanding σ (List (String × String)) := do
  let preview ← openPreview store options id
  return Bundle.files preview.name preview.sources preview.data

/-- Writes an archive of a document. -/
def exportTo [HasDisk σ] (store : DocumentStore σ) (options : Options) (id path : String) :
    Commanding σ String := do
  let bytes := Archive.pack (← bundle store options id)
  Commanding.writing (Disk.write path (.binary bytes))
  return "Exported " ++ id ++ " to " ++ path ++ " (" ++ Decimal.integer bytes.length
    ++ " bytes)\n"

end MockupStudio.Command
