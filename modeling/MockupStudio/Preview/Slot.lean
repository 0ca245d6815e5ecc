/-
One part of a mockup while it is being edited.

* `Status`: how far the text has got; `StageError`: what was wrong with it;
* `Slot`: the text, the last good artifact and the flags;
* `Slot.begun`, `applied`, `failed`, `edited`, `loaded`: the changes of a
  slot. A failure leaves the artifact as it is.
-/
import MockupStudio.Decimal.Layout
import MockupStudio.Document.Encoding

namespace MockupStudio

/-- How far the text of a part has got. -/
inductive Status where
  /-- Edited and not yet compiled, or never compiled. -/
  | idle
  | compiling
  /-- The last run succeeded, and its artifact is shown. -/
  | applied
  /-- The last run failed; the artifact before it is still shown. -/
  | failed
  deriving Repr, DecidableEq, Inhabited

namespace Status

/-- All states in their order. -/
def all : List Status := [idle, compiling, applied, failed]

/-- The name of a state. -/
def name : Status → String
  | idle => "idle"
  | compiling => "compiling"
  | applied => "applied"
  | failed => "failed"

/-- A state by its name. -/
def toJson (s : Status) : Json := .text s.name

/-- A state by its name. -/
def ofWire? (w : Wire) : Option Status := w.name?.bind fun name => all.find? (·.name = name)

end Status

/-- What was wrong with a part. -/
structure StageError where
  stage : Stage
  message : String
  line : Option Nat := none
  deriving Repr, DecidableEq

namespace StageError

/-- The wording of an error. -/
def text (e : StageError) : String := e.stage.name ++ " failed: " ++ e.message

/-- An error as an object; the line is left out if there is none. -/
def toJson (e : StageError) : Json :=
  .object ([("stage", e.stage.toJson), ("message", .text e.message)]
    ++ e.line.toList.map fun (n : Nat) => ("line", Json.int n))

/-- An error from an object. -/
def ofWire? (w : Wire) : Option StageError := do
  match ← w.members? ["stage", "message", "line"] with
  | [stage, message, line] =>
    if w.endsBefore 3 then none
    else
      let stage ← Wire.required Stage.ofWire? stage
      let message ← Wire.required Wire.text? message
      let line ← Wire.defaulting none (Wire.optional? Wire.natural?) line
      return ⟨stage, message, line⟩
  | _ => none

end StageError

/-- A part while it is being edited. -/
structure Slot where
  /-- The text in the editor. -/
  text : String := ""
  /-- What the last successful run made. -/
  artifact : String := ""
  status : Status := .idle
  error : Option StageError := none
  /-- Whether the text has changed since it was last compiled. -/
  dirty : Bool := false
  /-- Whether edits are compiled without being asked for. -/
  autoReload : Bool := true
  deriving Repr, DecidableEq, Inhabited

namespace Slot

/-- A run begins. -/
def begun (slot : Slot) : Slot := { slot with status := .compiling, dirty := false }

/-- A run succeeded. -/
def applied (artifact : String) (slot : Slot) : Slot :=
  { slot with artifact, error := none, status := .applied }

/-- A run failed. -/
def failed (error : StageError) (slot : Slot) : Slot :=
  { slot with error := some error, status := .failed }

/-- The text was edited. -/
def edited (text : String) (slot : Slot) : Slot :=
  { slot with text, status := .idle, dirty := true }

/-- Another text is put in place of everything but the switch. -/
def loaded (text : String) (slot : Slot) : Slot := { text, autoReload := slot.autoReload }

end Slot

end MockupStudio
