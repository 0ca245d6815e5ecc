/-
Directories and files.

* `Entry`: what a directory holds under a name;
* `Disk`: directories and files by their locations, with the directory that
  relative paths start from;
* `Disk.locate`: where a path leads. All but its last name must be those of
  directories, so a path that goes up again still needs what it passes by;
* `read`, `write`, `delete`, `makeDirectories`: the operations, which fail
  with a `FileFault`;
* `listing`, `relist`: the entries of one directory.
-/
import MockupStudio.Bindings
import MockupStudio.Files.Path

namespace MockupStudio

/-- What an entry of a directory is. -/
inductive Entry where
  | file (text : String)
  /-- A file that holds no text. -/
  | binary (bytes : List UInt8)
  | directory
  deriving Repr, DecidableEq, Inhabited

/-- Why a path could not be used. -/
inductive FileFault where
  /-- There is nothing at the path. -/
  | missing
  /-- There is something else than what was asked for. -/
  | blocked
  deriving Repr, DecidableEq

/-- The names that lead from the root to an entry. -/
abbrev Location := List String

/-- Directories and files. -/
structure Disk where
  /-- Where relative paths start. -/
  here : Location := []
  /-- All entries but the root. -/
  entries : List (Location × Entry) := []
  deriving Inhabited

namespace Disk

/-- What there is at a location. -/
def entry? (disk : Disk) (location : Location) : Option Entry :=
  if location.isEmpty then some .directory else disk.entries.lookup location

/-- Puts an entry in place of what there is at a location. -/
def put (location : Location) (entry : Entry) (disk : Disk) : Disk :=
  { disk with entries := (location, entry) :: disk.entries.filter (·.1 ≠ location) }

/-- Takes away what there is at a location. -/
def drop (location : Location) (disk : Disk) : Disk :=
  { disk with entries := disk.entries.filter (·.1 ≠ location) }

/-- Whether a location can be passed by. -/
def enter (disk : Disk) (location : Location) : Except FileFault Unit :=
  match disk.entry? location with
  | some .directory => .ok ()
  | some _ => .error .blocked
  | none => .error .missing

/-- Where names lead from a location. -/
def walk (disk : Disk) : Location → List String → Except FileFault Location
  | location, [] => .ok location
  | location, name :: names => do
    disk.enter location
    if name = ".." then walk disk location.dropLast names
    else walk disk (location ++ [name]) names

/-- Where a path starts. -/
def start (disk : Disk) (path : String) : Location :=
  if Path.isAbsolute path then [] else disk.here

/-- Where a path leads. -/
def locate (disk : Disk) (path : String) : Except FileFault Location :=
  if path = "" then .error .missing
  else disk.walk (disk.start path) (Path.names path)

/-- Whether there is something at a path. -/
def contains (disk : Disk) (path : String) : Bool :=
  match disk.locate path with
  | .ok location =>
    match disk.entry? location with
    | some .directory => true
    | some _ => !Path.endsInSlash path
    | none => false
  | .error _ => false

/-- The text of the file at a path. -/
def read (disk : Disk) (path : String) : Except FileFault String := do
  match disk.entry? (← disk.locate path) with
  | some (.file text) => if Path.endsInSlash path then throw .blocked else return text
  | some _ => throw .blocked
  | none => throw .missing

/-- Writes a file, in place of what it held. -/
def write (path : String) (entry : Entry) (disk : Disk) : Except FileFault Disk := do
  let location ← disk.locate path
  match disk.entry? location with
  | some .directory => throw .blocked
  | _ =>
    disk.enter location.dropLast
    if Path.endsInSlash path then throw .blocked else return disk.put location entry

/-- Deletes the file at a path. -/
def delete (path : String) (disk : Disk) : Except FileFault Disk := do
  let location ← disk.locate path
  match disk.entry? location with
  | some .directory => throw .blocked
  | some _ => return disk.drop location
  | none => throw .missing

/-- Makes every directory that names lead through. -/
def makeAlong : Location → List String → Disk → Except FileFault Disk
  | _, [], disk => .ok disk
  | location, name :: names, disk =>
    if name = ".." then makeAlong location.dropLast names disk
    else
      let location := location ++ [name]
      match disk.entry? location with
      | some .directory => makeAlong location names disk
      | some _ => .error .blocked
      | none => makeAlong location names (disk.put location .directory)

/-- Makes a directory and all those above it that are not there. -/
def makeDirectories (path : String) (disk : Disk) : Except FileFault Disk :=
  makeAlong (disk.start path) (Path.names path) disk

/-! ### One directory -/

/-- The name of an entry that stands directly in a directory. -/
def childName? (directory location : Location) : Option String :=
  if location.dropLast = directory then location.getLast? else none

/-- The entries of a directory by their names. -/
def listing (disk : Disk) (directory : Location) : Bindings Entry :=
  disk.entries.filterMap fun (location, entry) =>
    (childName? directory location).map fun name => (name, entry)

/-- Puts other entries in place of those of a directory. -/
def relist (directory : Location) (listing : Bindings Entry) (disk : Disk) : Disk :=
  { disk with
    entries := (listing.map fun (name, entry) => (directory ++ [name], entry))
      ++ disk.entries.filter fun (location, _) => (childName? directory location).isNone }

/-- Entries that differ from those of an earlier time; nothing where there is
no entry any more. -/
def changesSince (before after : Disk) : List (Location × Option Entry) :=
  (before.entries.filterMap fun (location, _) =>
      if (after.entry? location).isNone then some (location, none) else none)
    ++ after.entries.filterMap fun (location, entry) =>
      if before.entry? location = some entry then none else some (location, some entry)

end Disk

/-- States that have directories and files as a part. -/
class HasDisk (σ : Type) where
  disk : σ → Disk
  setDisk : Disk → σ → σ

instance : HasDisk Disk := ⟨id, fun disk _ => disk⟩

end MockupStudio
