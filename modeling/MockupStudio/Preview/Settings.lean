/-
Settings of a preview.

* `Settings`: how long edits wait to be compiled and saved, what is compiled
  without being asked for, and the limits of scripts;
* `Settings.toJson`, `Settings.ofWire?`: how settings are written and read;
  what is not given has its default.
-/
import MockupStudio.Document.Encoding
import MockupStudio.Script.Limits

namespace MockupStudio

namespace Script.Limits

/-- The names of the limits in their order. -/
def names : List String :=
  ["max_steps", "max_call_depth", "max_nesting", "max_resolve_depth", "max_resolved_nodes",
    "max_repeat"]

/-- Limits as an object. -/
def toJson (l : Limits) : Json :=
  .object [("max_steps", .int l.maxSteps), ("max_call_depth", .int l.maxCallDepth),
    ("max_nesting", .int l.maxNesting), ("max_resolve_depth", .int l.maxResolveDepth),
    ("max_resolved_nodes", .int l.maxResolvedNodes), ("max_repeat", .int l.maxRepeat)]

/-- Limits from an object. -/
def ofWire? (w : Wire) : Option Limits := do
  let usual : Limits := {}
  match ← w.members? names with
  | [steps, calls, nesting, depth, nodes, repetitions] =>
    let maxSteps ← Wire.defaulting usual.maxSteps Wire.natural? steps
    let maxCallDepth ← Wire.defaulting usual.maxCallDepth Wire.natural? calls
    let maxNesting ← Wire.defaulting usual.maxNesting Wire.natural? nesting
    let maxResolveDepth ← Wire.defaulting usual.maxResolveDepth Wire.natural? depth
    let maxResolvedNodes ← Wire.defaulting usual.maxResolvedNodes Wire.natural? nodes
    let maxRepeat ← Wire.defaulting usual.maxRepeat Wire.natural? repetitions
    return { maxSteps, maxCallDepth, maxNesting, maxResolveDepth, maxResolvedNodes, maxRepeat }
  | _ => none

end Script.Limits

/-- Settings of a preview; times are in milliseconds. -/
structure Settings where
  /-- The pause after which an edit is compiled. -/
  compileDebounce : Nat := 250
  /-- The least distance between saves of one part. -/
  saveRebounce : Nat := 1000
  /-- Whether edits are compiled without being asked for. -/
  autoReload : PerStage Bool := PerStage.replicate true
  limits : Script.Limits := {}
  deriving Repr, DecidableEq, Inhabited

namespace Settings

/-- The names of the settings in their order. -/
def names : List String := ["compile_debounce_ms", "save_rebounce_ms", "auto_reload", "sandbox"]

/-- Settings as an object. -/
def toJson (s : Settings) : Json :=
  .object [("compile_debounce_ms", .int s.compileDebounce),
    ("save_rebounce_ms", .int s.saveRebounce),
    ("auto_reload", PerStage.toJson .bool s.autoReload), ("sandbox", s.limits.toJson)]

/-- Settings from an object. -/
def ofWire? (w : Wire) : Option Settings := do
  let usual : Settings := {}
  match ← w.members? names with
  | [debounce, rebounce, autoReload, limits] =>
    let compileDebounce ← Wire.defaulting usual.compileDebounce Wire.natural? debounce
    let saveRebounce ← Wire.defaulting usual.saveRebounce Wire.natural? rebounce
    let autoReload ←
      Wire.defaulting usual.autoReload (PerStage.ofWire? Wire.switch? true) autoReload
    let limits ← Wire.defaulting usual.limits Script.Limits.ofWire? limits
    return { compileDebounce, saveRebounce, autoReload, limits }
  | _ => none

end Settings

end MockupStudio
