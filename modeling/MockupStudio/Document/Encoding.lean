/-
Documents in JSON.

* `Document.toJson`, `Document.ofWire?` and so on: how documents, their
  summaries and the requests that change them are written and read.

Sources may leave out parts, which are then empty.
-/
import MockupStudio.Document.Basic
import MockupStudio.Json.Basic
import MockupStudio.Time.Notation
import MockupStudio.Wire.Basic

namespace MockupStudio

/-- A part by its name. -/
def Stage.toJson (s : Stage) : Json := .text s.name

/-- A part by its name. -/
def Stage.ofWire? (w : Wire) : Option Stage := w.name?.bind Stage.ofName?

/-- A point in time as text. -/
def Timestamp.toJson (t : Timestamp) : Json := .text t.written

/-- A point in time from text. -/
def Timestamp.ofWire? (w : Wire) : Option Timestamp := w.text?.bind Timestamp.read?

/-- Values of the parts as an object. -/
def PerStage.toJson (f : α → Json) (p : PerStage α) : Json :=
  .object [("markup", f p.markup), ("style", f p.style), ("script", f p.script)]

/-- Values of the parts from an object; those not given have a default. -/
def PerStage.ofWire? (read : Wire → Option α) (value : α) (w : Wire) :
    Option (PerStage α) := do
  match ← w.members? (Stage.all.map Stage.name) with
  | [markup, style, script] =>
    let markup ← Wire.defaulting value read markup
    let style ← Wire.defaulting value read style
    let script ← Wire.defaulting value read script
    return ⟨markup, style, script⟩
  | _ => none

/-- Sources as an object. -/
def Sources.toJson (s : Sources) : Json := PerStage.toJson .text s

/-- Sources from an object. -/
def Sources.ofWire? (w : Wire) : Option Sources := PerStage.ofWire? Wire.text? "" w

namespace Document

/-- A document as an object. -/
def toJson (d : Document) : Json :=
  .object [("id", .text d.id), ("name", .text d.name), ("modifiedAt", d.modifiedAt.toJson),
    ("sources", Sources.toJson d.sources)]

/-- A document from an object. -/
def ofWire? (w : Wire) : Option Document := do
  match ← w.members? ["id", "name", "modifiedAt", "sources"] with
  | [id, name, modifiedAt, sources] =>
    let id ← Wire.required Wire.text? id
    let name ← Wire.required Wire.text? name
    let modifiedAt ← Wire.required Timestamp.ofWire? modifiedAt
    let sources ← Wire.required Sources.ofWire? sources
    return ⟨id, name, modifiedAt, sources⟩
  | _ => none

end Document

namespace Summary

/-- A summary as an object. -/
def toJson (s : Summary) : Json :=
  .object [("id", .text s.id), ("name", .text s.name), ("modifiedAt", s.modifiedAt.toJson)]

/-- A summary from an object. -/
def ofWire? (w : Wire) : Option Summary := do
  match ← w.members? ["id", "name", "modifiedAt"] with
  | [id, name, modifiedAt] =>
    let id ← Wire.required Wire.text? id
    let name ← Wire.required Wire.text? name
    let modifiedAt ← Wire.required Timestamp.ofWire? modifiedAt
    return ⟨id, name, modifiedAt⟩
  | _ => none

end Summary

namespace SaveRequest

/-- A request as an object. -/
def toJson (r : SaveRequest) : Json :=
  .object [("name", .text r.name), ("sources", Sources.toJson r.sources)]

/-- A request from an object. -/
def ofWire? (w : Wire) : Option SaveRequest := do
  match ← w.members? ["name", "sources"] with
  | [name, sources] =>
    let name ← Wire.required Wire.text? name
    let sources ← Wire.required Sources.ofWire? sources
    return ⟨name, sources⟩
  | _ => none

end SaveRequest

namespace FieldUpdate

/-- A request as an object. -/
def toJson (u : FieldUpdate) : Json :=
  .object [("field", u.field.toJson), ("text", .text u.text)]

/-- A request from an object. -/
def ofWire? (w : Wire) : Option FieldUpdate := do
  match ← w.members? ["field", "text"] with
  | [field, text] =>
    let field ← Wire.required Stage.ofWire? field
    let text ← Wire.required Wire.text? text
    return ⟨field, text⟩
  | _ => none

end FieldUpdate

end MockupStudio
