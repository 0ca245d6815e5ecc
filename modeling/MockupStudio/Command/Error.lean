/-
What can go wrong with a command.

* `CommandError`: the causes; `CommandError.message?`, their wording, and
  `CommandError.exitCode`, what the program tells whoever started it: 2 if
  there is no such document, 3 if the options are at fault, else 1.
-/
import MockupStudio.Files.Disk
import MockupStudio.Preview.Basic
import MockupStudio.Store.Basic

namespace MockupStudio

/-- Why a command failed. -/
inductive CommandError where
  | store (error : StoreError)
  | preview (error : PreviewError)
  /-- The options could not be read; what is wrong, if it is worded here. -/
  | options (complaint : Option String)
  /-- A file could not be read or written. -/
  | file
  /-- A directory could not be watched. -/
  | watch
  /-- The script of the document fails. -/
  | script (complaint : String)
  deriving Repr, DecidableEq

namespace CommandError

/-- The wording of an error. -/
def message? : CommandError → Option String
  | store e => e.message?
  | preview e => e.message?
  | options complaint => complaint.map ("config error: " ++ ·)
  | script complaint => some ("script stage failed: " ++ complaint)
  | file | watch => none

/-- The exit code of a program that ends with an error. -/
def exitCode : CommandError → Nat
  | store e => if e.isNotFound then 2 else 1
  | preview e => if e.isNotFound then 2 else 1
  | options _ => 3
  | file | watch | script _ => 1

end CommandError

/-- A step on a state that may fail as a command does. -/
abbrev Commanding (σ α : Type) := EStateM CommandError σ α

namespace Commanding

variable {σ α : Type}

/-- A step on a store as part of a command. -/
def ofStoring (work : Storing σ α) : Commanding σ α := fun s =>
  match work s with
  | .ok a s => .ok a s
  | .error e s => .error (.store e) s

/-- A reading of files as part of a command. -/
def reading [HasDisk σ] (work : Disk → Except FileFault α) : Commanding σ α := fun s =>
  match work (HasDisk.disk s) with
  | .ok a => .ok a s
  | .error _ => .error .file s

/-- A change of files as part of a command. -/
def writing [HasDisk σ] (work : Disk → Except FileFault Disk) : Commanding σ Unit := fun s =>
  match work (HasDisk.disk s) with
  | .ok disk => .ok () (HasDisk.setDisk disk s)
  | .error _ => .error .file s

end Commanding

end MockupStudio
