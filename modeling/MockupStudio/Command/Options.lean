/-
Options of the program and where they come from.

* `Options`: where documents are kept, how scripts are seeded, and the
  settings of previews;
* `Options.toJson`, `Options.ofWire?`: how options are written and read; what
  is not given has its default;
* `Options.load`: a file, then variables, then the words of the command
  line, the later ones counting more.
-/
import MockupStudio.Command.Error
import MockupStudio.Decimal.Numeral
import MockupStudio.Preview.Settings
import MockupStudio.Text.Blank
import MockupStudio.Text.Quoted
import MockupStudio.Toml.Reader

namespace MockupStudio

/-- Options of the program. -/
structure Options where
  /-- The directory in which documents are kept. -/
  storeDirectory : String := ".livemock"
  /-- The address of a service that keeps documents; it is used in place of
  the directory. -/
  remote : Option String := none
  /-- How long a service may take, in milliseconds. -/
  remoteTimeout : Nat := 10000
  /-- The seed of all samples. -/
  seed : Option Nat := none
  settings : Settings := {}
  /-- The file from which the options were read. -/
  file : Option String := none
  deriving Repr, DecidableEq, Inhabited

/-- Options given as words of the command line. -/
structure Overrides where
  storeDirectory : Option String := none
  remote : Option String := none
  seed : Option Nat := none
  deriving Repr, DecidableEq, Inhabited

namespace Options

/-- The names of the options in their order. -/
def names : List String := ["store_dir", "remote", "remote_timeout_ms", "seed", "pipeline"]

/-- Options as an object. -/
def toJson (o : Options) : Json :=
  .object [("store_dir", .text o.storeDirectory), ("remote", (o.remote.map .text).getD .null),
    ("remote_timeout_ms", .int o.remoteTimeout),
    ("seed", (o.seed.map fun n => Json.int n).getD .null), ("pipeline", o.settings.toJson)]

/-- Options from an object. -/
def ofWire? (w : Wire) : Option Options := do
  let usual : Options := {}
  match ← w.members? names with
  | [directory, remote, timeout, seed, settings] =>
    let storeDirectory ← Wire.defaulting usual.storeDirectory Wire.text? directory
    let remote ← Wire.defaulting usual.remote (Wire.optional? Wire.text?) remote
    let remoteTimeout ← Wire.defaulting usual.remoteTimeout Wire.natural? timeout
    let seed ← Wire.defaulting usual.seed (Wire.optional? Wire.natural?) seed
    let settings ← Wire.defaulting usual.settings Settings.ofWire? settings
    return { storeDirectory, remote, remoteTimeout, seed, settings }
  | _ => none

/-- The options a file holds. -/
def readFile (disk : Disk) (path : String) : Except CommandError Options :=
  match disk.read path with
  | .error _ => .error (.options none)
  | .ok text =>
    match (Toml.read? text).bind ofWire? with
    | some options => .ok { options with file := some path }
    | none => .error (.options none)

/-! ### Variables -/

/-- A variable, unless it is empty. -/
def nonEmpty? (key : String) (environment : Bindings String) : Option String :=
  (Bindings.get? key environment).filter (· ≠ "")

/-- A variable that holds a number of milliseconds. -/
def milliseconds (key : String) (usual : Nat) (environment : Bindings String) :
    Except CommandError Nat :=
  match Bindings.get? key environment with
  | none => .ok usual
  | some value =>
    match Decimal.readNatural? (Text.trim value.toList) with
    | some n => .ok n
    | none =>
      .error (.options
        (some (key ++ " must be a number of milliseconds, got " ++ Text.quoted value)))

/-- Options changed by variables. -/
def withVariables (environment : Bindings String) (o : Options) : Except CommandError Options := do
  let compileDebounce ← milliseconds "LIVEMOCK_DEBOUNCE_MS" o.settings.compileDebounce environment
  let saveRebounce ← milliseconds "LIVEMOCK_REBOUNCE_MS" o.settings.saveRebounce environment
  return { o with
    storeDirectory := (nonEmpty? "LIVEMOCK_STORE" environment).getD o.storeDirectory
    remote := (nonEmpty? "LIVEMOCK_REMOTE" environment).or o.remote
    settings := { o.settings with compileDebounce, saveRebounce } }

/-- Options changed by words of the command line. -/
def withOverrides (given : Overrides) (o : Options) : Options :=
  { o with
    storeDirectory := given.storeDirectory.getD o.storeDirectory
    remote := given.remote.or o.remote
    seed := given.seed.or o.seed }

/-- The file that is read when none is named. -/
def defaultFile : String := "livemock.toml"

/-- Options from a file, from variables and from the command line. A file
that is named must be there. -/
def load (disk : Disk) (path : Option String) (environment : Bindings String)
    (given : Overrides) : Except CommandError Options := do
  let options ← match path with
    | some path => readFile disk path
    | none => if disk.contains defaultFile then readFile disk defaultFile else .ok {}
  let options ← options.withVariables environment
  return options.withOverrides given

end Options

end MockupStudio
