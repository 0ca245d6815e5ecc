/-
The contents of one directory, and the operations on it that take no notice
of each other.

* `Folder`: names of entries with what they hold;
* `Folder.read`, `write`, `rename`, `delete`: each is one step that other
  users of the directory see as a whole;
* `stem?`: the name of a file without a given extension.
-/
import MockupStudio.Files.Disk
import MockupStudio.Store.Basic

namespace MockupStudio

/-- The entries of a directory by their names. -/
abbrev Folder := Bindings Entry

namespace Folder

/-- The text of a file; nothing if there is no such entry. -/
def read (name : String) : Storing Folder (Option String) := do
  match Bindings.get? name (← get) with
  | some (.file text) => return some text
  | some (.binary _) => throw .undecodable
  | some .directory => throw .file
  | none => return none

/-- Writes a file, in place of what it held. -/
def write (name text : String) : Storing Folder Unit := do
  match Bindings.get? name (← get) with
  | some .directory => throw .file
  | _ => modify (Bindings.insert name (.file text))

/-- Gives a file another name, in place of the file of that name. -/
def rename (source target : String) : Storing Folder Unit := do
  let folder ← get
  match Bindings.get? source folder, Bindings.get? target folder with
  | _, some .directory => throw .file
  | some entry, _ => set (Bindings.insert target entry (Bindings.erase source folder))
  | none, _ => throw .file

/-- Deletes a file, and says whether there was one. -/
def delete (name : String) : Storing Folder Bool := do
  match Bindings.get? name (← get) with
  | some .directory => throw .file
  | some _ => modify (Bindings.erase name); return true
  | none => return false

end Folder

namespace FileName

/-- The characters before and after the last point of a name, if it has one. -/
def splitLast (name : List Char) : Option (List Char × List Char) :=
  let after := name.reverse.takeWhile (· ≠ '.')
  match name.reverse.drop after.length with
  | _ :: before => some (before.reverse, after.reverse)
  | [] => none

/-- The name of a file without the given extension, if it has that one. A
point at the beginning of a name begins no extension. -/
def stem? (extension name : String) : Option String :=
  match splitLast name.toList with
  | some (stem, rest) =>
    if !stem.isEmpty && rest = extension.toList then some (String.ofList stem) else none
  | none => none

example : stem? "json" "a.b.json" = some "a.b" := by decide
example : stem? "json" ".json" = none := by decide
example : stem? "json" "a.json.tmp" = none := by decide

end FileName

end MockupStudio
