/-
Watching a directory.

* `stageOfPath?`: the part whose file a path names;
* `Watch`: a preview that follows the files of a directory;
* `Watch.begin`, `notice`, `wait`, `finish`: a document is imported if it is
  not in the store; then each change of a source file is an edit, unless the
  text is already there; in the end all that is waiting is compiled and saved;
* `watch`: all of it, for a list of changes.
-/
import MockupStudio.Command.Documents

namespace MockupStudio

/-- The part whose file a path names. -/
def stageOfPath? (path : String) : Option Stage :=
  (Path.fileName? path).bind Stage.ofFileName?

/-- A change of a file. -/
structure FileChange where
  path : String
  /-- What is written; nothing if the file is deleted. -/
  entry : Option Entry
  deriving Repr, DecidableEq

/-- Makes a change of a file; one that cannot be made is passed over. -/
def FileChange.make (change : FileChange) (disk : Disk) : Disk :=
  let outcome := match change.entry with
    | some entry => disk.write change.path entry
    | none => disk.delete change.path
  match outcome with
  | .ok disk => disk
  | .error _ => disk

/-- A preview that follows the files of a directory. -/
structure Watch (σ : Type) where
  session : Session σ
  directory : String
  edits : Nat := 0

namespace Watch

variable {σ : Type}

/-- A preview of a document, which is imported if it is not in the store. -/
def openOrImport [HasDisk σ] (store : DocumentStore σ) (options : Options) (moment : Timestamp)
    (id directory : String) : Commanding σ Preview := fun s =>
  match Command.openPreview store options id s with
  | .error (.preview e) s =>
    if e.isNotFound then
      (do
        let _ ← Command.importFrom store moment id directory none
        Command.openPreview store options id) s
    else .error (.preview e) s
  | outcome => outcome

/-- Begins to watch a directory, which must be there. -/
def begin [HasDisk σ] (store : DocumentStore σ) (options : Options) (moment : Timestamp)
    (id directory : String) : Commanding σ (Watch σ) := do
  let preview ← openOrImport store options moment id directory
  let (_, preview) := preview.attach {}
  let contents ← get
  if (HasDisk.disk contents).contains directory then
    return { session := { preview, contents }, directory }
  else throw .watch

/-- Whether a path leads to an entry that stands directly in the directory. -/
def sees [HasDisk σ] (w : Watch σ) (path : String) : Bool :=
  let disk := HasDisk.disk w.session.contents
  match disk.locate w.directory, disk.locate path with
  | .ok directory, .ok location => (Disk.childName? directory location).isSome
  | _, _ => false

/-- Takes notice of a file that has changed. -/
def notice [HasDisk σ] (path : String) (w : Watch σ) : Watch σ :=
  if w.sees path then
    match stageOfPath? path, (HasDisk.disk w.session.contents).read path with
    | some stage, .ok text =>
      let (edited, preview) := w.session.preview.editTo w.session.now stage text
      { w with
        session := { w.session with preview }
        edits := if edited then w.edits + 1 else w.edits }
    | _, _ => w
  else w

/-- Lets time pass. -/
def wait (store : DocumentStore σ) (moment : Timestamp) (span : Nat) (w : Watch σ) : Watch σ :=
  { w with session := w.session.advance store moment span }

/-- Makes a change of a file, takes notice of it, and waits until it is
saved. -/
def follow [HasDisk σ] (store : DocumentStore σ) (moment : Timestamp) (w : Watch σ)
    (change : FileChange) : Watch σ :=
  let contents := w.session.contents
  let contents := HasDisk.setDisk (change.make (HasDisk.disk contents)) contents
  let w := { w with session := { w.session with contents } }
  (w.notice change.path).wait store moment w.session.preview.settings.saveRebounce

/-- Compiles and saves all that is waiting. -/
def finish (store : DocumentStore σ) (moment : Timestamp) (w : Watch σ) : Watch σ :=
  { w with session := w.session.flush store moment }

/-- What is printed in the end. -/
def report (w : Watch σ) : String :=
  "Stopped watching " ++ w.directory ++ " after " ++ Decimal.integer w.edits ++ " edits\n"

end Watch

namespace Command

variable {σ : Type}

/-- Watches a directory while its files change. -/
def watch [HasDisk σ] (store : DocumentStore σ) (options : Options) (moment : Timestamp)
    (id directory : String) (changes : List FileChange) : Commanding σ String := do
  let w ← Watch.begin store options moment id directory
  let w := (changes.foldl (Watch.follow store moment) w).finish store moment
  set w.session.contents
  return w.report

end Command

end MockupStudio
