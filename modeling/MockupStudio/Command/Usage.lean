/-
What may stand on the command line, and the text that tells it.

* `ValueKind`, `OptionSpec`, `ActionSpec`: values, options and commands;
* `Usage.globals`, `Usage.actions`: the tables of all of them;
* `Usage.program`, `Usage.ofAction`: the help on the program and on a command.
-/
import MockupStudio.Bindings

namespace MockupStudio

/-- What a value must be. -/
inductive ValueKind where
  | text
  /-- A text that is not empty. -/
  | path
  /-- A natural number of 64 bits. -/
  | natural
  deriving Repr, DecidableEq

/-- An option that takes a value. -/
structure OptionSpec where
  name : String
  letter : Option Char := none
  kind : ValueKind
  about : String := ""
  /-- The variable that is used where the option is not given. -/
  fallback : Option String := none
  /-- The value it has where it is not given, as shown. -/
  usual : Option String := none
  deriving Repr, DecidableEq

/-- A command with the values it needs. -/
structure ActionSpec where
  name : String
  about : String
  places : List (String × ValueKind) := []
  options : List OptionSpec := []
  deriving Repr, DecidableEq

namespace Usage

/-- The name of the program. -/
def programName : String := "livemock"

/-- What the program answers when asked for its version. -/
def version : String := programName ++ " 0.1.0\n"

/-- What the program is for. -/
def programAbout : String := "Command-line front end for livemock documents"

/-- The variable that gives a seed. -/
def seedVariable : String := "LIVEMOCK_SEED"

/-- The options of the program, which may stand anywhere. -/
def globals : List OptionSpec :=
  [{ name := "store", kind := .path, about := "Local store directory" },
    { name := "remote", kind := .text, about := "Remote document service base URL" },
    { name := "seed", kind := .natural, about := "Seed for reproducible samples",
      fallback := some seedVariable },
    { name := "config", kind := .path,
      about := "Config file (defaults to ./livemock.toml when present)" }]

/-- The commands. -/
def actions : List ActionSpec :=
  [{ name := "list", about := "List documents, newest first" },
    { name := "show", about := "Print a document's render state", places := [("ID", .text)] },
    { name := "sample", about := "Print fresh samples of a document's data",
      places := [("ID", .text)],
      options := [{ name := "count", letter := some 'n', kind := .natural, usual := some "1" }] },
    { name := "import", about := "Save markup.html, style.css and data.fix from a directory",
      places := [("ID", .text), ("DIR", .path)],
      options := [{ name := "name", kind := .text }] },
    { name := "export", about := "Write a zip bundle",
      places := [("ID", .text), ("OUT", .path)] },
    { name := "watch", about := "Recompile and autosave as files in a directory change",
      places := [("ID", .text), ("DIR", .path)] },
    { name := "remove", about := "Delete a document", places := [("ID", .text)] }]

/-- The command of a name. -/
def action? (name : String) : Option ActionSpec := actions.find? (·.name = name)

/-- The name of the command that explains commands. -/
def helpName : String := "help"

/-! ### Help -/

/-- Lines of two columns. -/
def columns (rows : List (String × String)) : String :=
  let width := (rows.map (·.1.length)).foldl max 0
  String.join (rows.map fun (left, right) =>
    "  " ++ left ++ String.ofList (List.replicate (width - left.length + 2) ' ') ++ right ++ "\n")

/-- What is told of an option; the variable with the value it has. -/
def optionText (environment : Bindings String) (o : OptionSpec) : String :=
  " ".intercalate
    ((if o.about = "" then [] else [o.about])
      ++ (o.fallback.toList.map fun v =>
        "[env: " ++ v ++ "=" ++ (Bindings.get? v environment).getD "" ++ "]")
      ++ o.usual.toList.map fun v => "[default: " ++ v ++ "]")

/-- The line of an option. -/
def optionRow (environment : Bindings String) (o : OptionSpec) : String × String :=
  let letter := match o.letter with
    | some c => "-" ++ String.singleton c ++ ", "
    | none => "    "
  (letter ++ "--" ++ o.name ++ " <" ++ o.name.toUpper ++ ">", optionText environment o)

/-- The line of the option that asks for help. -/
def helpRow : String × String := ("-h, --help", "Print help")

/-- A headed part of the help. -/
def part (heading : String) (rows : List (String × String)) : String :=
  if rows.isEmpty then "" else "\n" ++ heading ++ ":\n" ++ columns rows

/-- The help on the program. -/
def program (environment : Bindings String) : String :=
  programAbout ++ "\n\nUsage: " ++ programName ++ " [OPTIONS] <COMMAND>\n"
    ++ part "Commands" ((actions.map fun t => (t.name, t.about))
      ++ [(helpName, "Print this message or the help of the given subcommand(s)")])
    ++ part "Options" (globals.map (optionRow environment)
      ++ [helpRow, ("-V, --version", "Print version")])

/-- The help on a command. -/
def ofAction (environment : Bindings String) (t : ActionSpec) : String :=
  let places := t.places.map fun p => "<" ++ p.1 ++ ">"
  t.about ++ "\n\nUsage: " ++ " ".intercalate ([programName, t.name, "[OPTIONS]"] ++ places)
    ++ "\n" ++ part "Arguments" (places.map fun p => (p, ""))
    ++ part "Options" ((t.options ++ globals).map (optionRow environment) ++ [helpRow])

end Usage

end MockupStudio
