/-
Reading the command line.

* `Word`: words told apart by how they begin;
* `Level`: what may stand before and after the name of a command;
* `Scan`: what has been read so far. A value is checked when the next option
  or value comes, or at the end;
* `Action`, `Invocation`: what the program is asked to do;
* `Invocation.read`: the words of a command line. It may end early, with a
  text to be shown or with words that cannot be understood (`Interruption`).
-/
import MockupStudio.Command.Options
import MockupStudio.Command.Usage

namespace MockupStudio

/-- Why reading the command line ends early. -/
inductive Interruption where
  | misuse
  /-- A text was asked for. -/
  | shown (text : String)
  deriving Repr, DecidableEq

/-- A word of the command line. -/
inductive Word where
  /-- What ends the options. -/
  | escape
  /-- The name of an option, and a value if one follows after `=`. -/
  | long (name : String) (value : Option String)
  /-- The letter of an option, and what follows it. -/
  | letter (c : Char) (rest : List Char)
  | plain (text : String)
  deriving Repr, DecidableEq

namespace Word

/-- A name and what follows after `=`. -/
def splitValue (cs : List Char) : Word :=
  let name := String.ofList (cs.takeWhile (· ≠ '='))
  match cs.dropWhile (· ≠ '=') with
  | _ :: value => long name (some (String.ofList value))
  | [] => long name none

/-- A word by how it begins. -/
def ofText (text : String) : Word :=
  match text.toList with
  | ['-', '-'] => escape
  | '-' :: '-' :: cs => splitValue cs
  | '-' :: c :: cs => letter c cs
  | _ => plain text

end Word

namespace ValueKind

/-- Whether a value is of a kind. -/
def admits : ValueKind → String → Bool
  | text, _ => true
  | path, value => value ≠ ""
  | natural, value => (Decimal.readNatural? value.toList).isSome

end ValueKind

/-- What may stand on a part of the command line. -/
structure Level where
  options : List OptionSpec
  places : List ValueKind
  /-- The names that end this part. -/
  names : List String
  help : String
  version : Option String

/-- What has been read of a part of the command line. -/
structure Scan where
  given : Bindings String := []
  /-- The last option, with its value if that has come. -/
  pending : Option (OptionSpec × Option String) := none
  placed : List String := []

namespace Scan

/-- Whether the last option still needs its value. -/
def isWaiting (s : Scan) : Bool :=
  match s.pending with
  | some (_, none) => true
  | _ => false

/-- Takes up an option with its value; it may be given only once. -/
def give (o : OptionSpec) (value : String) (s : Scan) : Except Interruption Scan :=
  if Bindings.contains o.name s.given || !o.kind.admits value then .error .misuse
  else .ok { s with given := Bindings.insert o.name value s.given }

/-- Takes up the last option. -/
def settle (s : Scan) : Except Interruption Scan :=
  match s.pending with
  | none => .ok s
  | some (_, none) => .error .misuse
  | some (o, some value) => { s with pending := none }.give o value

/-- A value that belongs to no option. -/
def place (level : Level) (value : String) (s : Scan) : Except Interruption Scan := do
  let s ← s.settle
  match level.places[s.placed.length]? with
  | some kind =>
    if kind.admits value then return { s with placed := s.placed ++ [value] } else throw .misuse
  | none => throw .misuse

/-- An option, with a value if it comes along. -/
def start (o : OptionSpec) (value : Option String) (s : Scan) : Except Interruption Scan := do
  let s ← s.settle
  match value with
  | some value => s.give o value
  | none => return { s with pending := some (o, none) }

/-- An option or a request for a text, by its name. -/
def long (level : Level) (name : String) (value : Option String) (s : Scan) :
    Except Interruption Scan := do
  match level.options.find? (·.name = name) with
  | some o => s.start o value
  | none =>
    if value.isSome then throw .misuse
    let _ ← s.settle
    if name = "help" then throw (.shown level.help)
    match level.version with
    | some text => if name = "version" then throw (.shown text) else throw .misuse
    | none => throw .misuse

/-- An option or a request for a text, by its letter; what follows the letter
of an option is its value. -/
def letter (level : Level) (c : Char) (rest : List Char) (s : Scan) :
    Except Interruption Scan := do
  match level.options.find? (·.letter = some c) with
  | some o =>
    match rest with
    | [] => s.start o none
    | '=' :: value => s.start o (some (String.ofList value))
    | value => s.start o (some (String.ofList value))
  | none =>
    if c = 'h' then s.long level "help" none
    else if c = 'V' then s.long level "version" none
    else throw .misuse

/-- A word that is no option. -/
def plain (level : Level) (text : String) (s : Scan) : Except Interruption Scan :=
  match s.pending with
  | some (o, none) => .ok { s with pending := some (o, some text) }
  | _ => s.place level text

/-- The words of a part of the command line, up to a name that ends it; gives
that name and the words after it. -/
def words (level : Level) : Scan → List String →
    Except Interruption (Scan × Option (String × List String))
  | s, [] => .ok (s, none)
  | s, w :: ws =>
    if !s.isWaiting && level.names.contains w then .ok (s, some (w, ws))
    else
      match Word.ofText w with
      | .escape => do return (← ws.foldlM (fun s w => s.place level w) s, none)
      | .long name value => do words level (← s.long level name value) ws
      | .letter c rest => do words level (← s.letter level c rest) ws
      | .plain text => do words level (← s.plain level text) ws

end Scan

/-! ### Invocations -/

/-- What the program is asked to do. -/
inductive Action where
  | list
  | show (id : String)
  | sample (id : String) (count : Nat)
  | importFrom (id directory : String) (name : Option String)
  | exportTo (id path : String)
  | watch (id directory : String)
  | remove (id : String)
  deriving Repr, DecidableEq

/-- What the program is asked to do, and with which options. -/
structure Invocation where
  action : Action
  overrides : Overrides
  /-- The file with further options. -/
  file : Option String
  deriving Repr, DecidableEq

namespace Action

/-- A command from its name, its values and its options. -/
def ofValues? (name : String) (values : List String) (given : Bindings String) : Option Action :=
  let count := (Bindings.get? "count" given).bind fun value => Decimal.readNatural? value.toList
  match name, values with
  | "list", [] => some .list
  | "show", [id] => some (.show id)
  | "sample", [id] => some (.sample id (count.getD 1))
  | "import", [id, directory] => some (.importFrom id directory (Bindings.get? "name" given))
  | "export", [id, path] => some (.exportTo id path)
  | "watch", [id, directory] => some (.watch id directory)
  | "remove", [id] => some (.remove id)
  | _, _ => none

end Action

namespace Invocation

/-- What may stand before the name of a command. -/
def outerLevel (environment : Bindings String) : Level where
  options := Usage.globals
  places := []
  names := Usage.actions.map ActionSpec.name ++ [Usage.helpName]
  help := Usage.program environment
  version := some Usage.version

/-- What may stand after the name of a command. -/
def innerLevel (environment : Bindings String) (t : ActionSpec) : Level where
  options := t.options ++ Usage.globals
  places := t.places.map (·.2)
  names := []
  help := Usage.ofAction environment t
  version := none

/-- The help that is asked for by name. -/
def explain (environment : Bindings String) : List String → Interruption
  | [] => .shown (Usage.program environment)
  | [name] =>
    match Usage.action? name with
    | some t => .shown (Usage.ofAction environment t)
    | none => .misuse
  | _ => .misuse

/-- The seed a variable gives to a part of the command line that gives none;
it must be a number even if it is not needed. -/
def seedFrom (environment : Bindings String) (s : Scan) : Except Interruption (Option String) :=
  match Bindings.get? "seed" s.given, Bindings.get? Usage.seedVariable environment with
  | none, some value =>
    if ValueKind.natural.admits value then .ok (some value) else .error .misuse
  | _, _ => .ok none

/-- The words of a command line; options after the name of the command count
more than those before it, and a variable less than both. -/
def read (environment : Bindings String) (ws : List String) : Except Interruption Invocation := do
  let (outer, found) ← Scan.words (outerLevel environment) {} ws
  let some (name, rest) := found | throw .misuse
  if name = Usage.helpName then throw (explain environment rest)
  let some spec := Usage.action? name | throw .misuse
  let (inner, _) ← Scan.words (innerLevel environment spec) {} rest
  let inner ← inner.settle
  let outer ← outer.settle
  let fallback := (← seedFrom environment inner).or (← seedFrom environment outer)
  let some action := Action.ofValues? name inner.placed inner.given | throw .misuse
  let given (key : String) : Option String :=
    (Bindings.get? key inner.given).or (Bindings.get? key outer.given)
  let seed := ((given "seed").or fallback).bind fun value => Decimal.readNatural? value.toList
  return {
    action
    overrides := { storeDirectory := given "store", remote := given "remote", seed }
    file := given "config" }

end Invocation

end MockupStudio
