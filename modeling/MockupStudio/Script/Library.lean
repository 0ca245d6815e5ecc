/-
The library of helpers that scripts may call.

A helper checks its arguments at once and gives a fixture; the draws are
made each time the fixture is forced.

* `Helper.call`: checks the arguments and makes the fixture;
* `Native.call`: a built-in function with its number of arguments checked;
* `helperScope`: all helpers by name, and grouped under `fixtures`;
* `Recipe.force`: what a fixture yields.
-/
import MockupStudio.Decimal.Layout
import MockupStudio.Script.Draws
import MockupStudio.Script.Value

namespace MockupStudio.Script

/-! ### Names -/

/-- The first names to draw from. -/
def firstNames : List String :=
  ["Ada", "Alan", "Alice", "Amara", "Bea", "Boris", "Carmen", "Chen", "Dario", "Dana",
    "Elena", "Emeka", "Farah", "Felix", "Grace", "Hana", "Hugo", "Ines", "Ivan", "Jonas",
    "Julia", "Kenji", "Lena", "Liam", "Maya", "Milo", "Nadia", "Noah", "Olga", "Omar",
    "Priya", "Quinn", "Rosa", "Sami", "Sofia", "Tariq", "Uma", "Victor", "Wen", "Yara",
    "Zoe"]

/-- The last names to draw from. -/
def lastNames : List String :=
  ["Abara", "Berg", "Costa", "Dubois", "Eriksen", "Fischer", "Garcia", "Haddad", "Ito",
    "Jensen", "Kowalski", "Lopez", "Moreau", "Nakamura", "Novak", "Okafor", "Petrov",
    "Quispe", "Rossi", "Sato", "Schmidt", "Silva", "Tanaka", "Usman", "Varga", "Weber",
    "Xu", "Yilmaz", "Zhang"]

/-- The name under which scripts find a helper. -/
def Helper.name : Helper → String
  | firstName => "firstName"
  | lastName => "lastName"
  | fullName => "fullName"
  | randInt => "randInt"
  | pick => "pick"
  | uid => "uid"
  | some => "some"

/-- All helpers. -/
def Helper.all : List Helper := [.firstName, .lastName, .fullName, .randInt, .pick, .uid, .some]

/-- The name of the object that holds all helpers. -/
def helpersName : String := "fixtures"

/-- The length of an identifier where none is asked for. -/
def defaultDigits : Nat := 32

/-- The longest identifier. -/
def maxDigits : Nat := 4096

/-! ### Calls -/

/-- An argument that has to be a whole number. -/
def wholeArgument (helper what : String) (v : Value) : Except String Int :=
  match v with
  | .int n => .ok n.toInt
  | .float x =>
    if x.isFinite && x.floor == x then .ok x.toInt64.toInt
    else .error (helper ++ "() expects an integer " ++ what ++ ", got float")
  | v => .error (helper ++ "() expects an integer " ++ what ++ ", got " ++ v.typeName)

/-- A helper without arguments. -/
def callPlain (helper : String) (recipe : Recipe) (arguments : List Value) :
    Except String Value :=
  if arguments.isEmpty then .ok (.fixture helper recipe 0)
  else .error (helper ++ "() takes no arguments, got " ++ toString arguments.length)

/-- Two bounds as a half-open range. -/
def rangeText (low high : Int) (close : String) : String :=
  "[" ++ Decimal.integer low ++ ", " ++ Decimal.integer high ++ close

/-- A number from a range given by its end, or by both ends. -/
def callRandInt (arguments : List Value) : Except String Value := do
  let (low, high) ← match arguments with
    | [high] => do pure ((0 : Int), ← wholeArgument "randInt" "max" high)
    | [low, high] => do
      let low ← wholeArgument "randInt" "min" low
      pure (low, ← wholeArgument "randInt" "max" high)
    | _ =>
      .error ("randInt() expects 1 or 2 arguments, got " ++ toString arguments.length)
  if high ≤ low then .error ("randInt() range " ++ rangeText low high ")" ++ " is empty")
  else .ok (.fixture "randInt" (.between low high) 0)

/-- The deepest nesting among values, counted no further than a cap. -/
def deepestOf (cap : Nat) (vs : List Value) : Nat :=
  vs.foldl (fun deepest v => max deepest (v.countUpTo cap)) 0

/-- One of an array of values, or one of several arguments. -/
def callPick (maxDepth : Nat) (arguments : List Value) : Except String Value := do
  let choices ← match arguments with
    | [.array items] => pure items
    | [single] => .error ("pick() expects an array, got " ++ single.typeName)
    | several => pure several
  if choices.isEmpty then .error "pick() needs at least one choice"
  else .ok (.fixture "pick" (.choice choices) (deepestOf maxDepth choices + 1))

/-- An identifier of a given length. -/
def callUid (arguments : List Value) : Except String Value := do
  let length ← match arguments with
    | [] => pure (defaultDigits : Int)
    | [length] => wholeArgument "uid" "length" length
    | _ =>
      .error ("uid() expects at most 1 argument, got " ++ toString arguments.length)
  if 0 ≤ length ∧ length ≤ maxDigits then .ok (.fixture "uid" (.digits length.toNat) 0)
  else .error ("uid() length must be between 0 and " ++ toString maxDigits ++ ", got "
    ++ Decimal.integer length)

/-- Copies of a template, of a fixed number or a number from a range. -/
def callSome (maxRepeat maxDepth : Nat) (arguments : List Value) : Except String Value := do
  let (low, high, template) ← match arguments with
    | [count, template] => do
      let n ← wholeArgument "some" "count" count
      pure (n, n, template)
    | [low, high, template] => do
      let low ← wholeArgument "some" "min" low
      let high ← wholeArgument "some" "max" high
      pure (low, high, template)
    | _ =>
      .error ("some() expects 2 or 3 arguments, got " ++ toString arguments.length)
  if low < 0 ∨ high < low then
    .error ("some() count range " ++ rangeText low high "]" ++ " is invalid")
  else if (maxRepeat : Int) < high then
    .error ("some() count " ++ Decimal.integer high ++ " exceeds the limit of "
      ++ toString maxRepeat)
  else
    .ok (.fixture "some" (.copies low.toNat high.toNat template)
      (template.countUpTo maxDepth + 2))

/-- Checks the arguments of a helper and makes its fixture. -/
def Helper.call (helper : Helper) (maxRepeat maxDepth : Nat) (arguments : List Value) :
    Except String Value :=
  match helper with
  | .firstName => callPlain "firstName" .firstName arguments
  | .lastName => callPlain "lastName" .lastName arguments
  | .fullName => callPlain "fullName" .fullName arguments
  | .randInt => callRandInt arguments
  | .pick => callPick maxDepth arguments
  | .uid => callUid arguments
  | .some => callSome maxRepeat maxDepth arguments

/-- What the built-in functions of the program around the scripts do, by their numbers:
each is any function of its arguments. -/
abbrev Host := Nat → List Value → Except String Value

/-- A program with no functions of its own. -/
def Host.none : Host := fun _ _ => .ok .null

/-- Calls a built-in function. -/
def Native.call (f : Native) (arguments : List Value) (host : Host := Host.none) :
    Except String Value :=
  if 0 ≤ f.arity ∧ (arguments.length : Int) ≠ f.arity then
    .error ("Function '" ++ f.name ++ "' expected " ++ Decimal.integer f.arity
      ++ " arguments, got " ++ toString arguments.length)
  else
    match f.action with
    | .help helper maxRepeat maxDepth => helper.call maxRepeat maxDepth arguments
    | .gather => .ok (.array arguments)
    | .nothing => .ok .null
    | .host number => host number arguments

/-- A helper as a value. -/
def Helper.native (serial maxRepeat maxDepth : Nat) (helper : Helper) : Value :=
  .native ⟨helper.name, -1, .help helper maxRepeat maxDepth, serial⟩

/-- The variables that every script sees: the helpers, and all of them under
one name. -/
def helperScope (serial maxRepeat maxDepth : Nat) : Bindings Value :=
  let helpers := Helper.all.map fun h => (h.name, h.native serial maxRepeat maxDepth)
  Bindings.insert helpersName (.object helpers) helpers

/-! ### Forcing -/

/-- The bytes that a value takes in an array. -/
def valueBytes : Nat := 64

/-- The most bytes that can be asked for at once with addresses of 64 bits. -/
def mostBytes : Nat := 9223372036854775807

/-- What forcing draws on: random draws and counters, and room for arrays. -/
structure Supply where
  source : Source
  /-- How often each counter has been asked. -/
  counters : List (Nat × Nat) := []
  /-- The most bytes that an array may take. -/
  room : Nat := mostBytes
  deriving Inhabited

/-- Why a fixture yields nothing. -/
inductive ForceFailure where
  | failed (message : String)
  /-- The source of draws broke off, or there was no room for an array. -/
  | aborted (complaint : String)
  deriving Repr, DecidableEq

/-- Forcing a fixture. -/
abbrev Force := EStateM ForceFailure Supply

/-- A draw from the supply. -/
def drawing (draw : Draw α) : Force α := fun supply =>
  match draw supply.source with
  | .ok a source => .ok a { supply with source }
  | .error complaint source => .error (.aborted complaint) { supply with source }

/-- A member of a list, all being equally likely. -/
def drawFrom (choices : List α) (d : α) : Force α := do
  let i ← drawing (Source.below (UInt64.ofNat choices.length))
  return choices.getD i.toNat d

/-- So many hexadecimal digits; `done` in reverse. -/
def drawDigits : Nat → List Char → Force (List Char)
  | 0, done => pure done.reverse
  | n + 1, done => do
    let d ← drawing (Source.below 16)
    drawDigits n (Nat.digitChar d.toNat :: done)

/-- The next number of a counter. -/
def nextCount (counter : Nat) : Force Nat := fun supply =>
  let n := (supply.counters.lookup counter).getD 0
  .ok n { supply with
    counters := (counter, n + 1) :: supply.counters.filter (·.1 ≠ counter) }

/-- A number from a range that is known not to be empty. -/
def drawBetween (low high : Int) (emptyText : String) : Force Int := do
  match ← drawing (Source.between low high) with
  | some n => return n
  | none => throw (.failed emptyText)

/-- What is complained of where there is no room for an array. -/
def capacityOverflow : String := "capacity overflow"

/-- An array of so many copies, for which there has to be room. That the memory of a
machine may give out before is not looked at. -/
def repeated (n : Nat) (template : Value) : Force Value := fun supply =>
  if n * valueBytes ≤ supply.room then .ok (.array (List.replicate n template)) supply
  else .error (.aborted capacityOverflow) supply

/-- What a fixture yields. -/
def Recipe.force : Recipe → Force Value
  | firstName => do return .text (← drawFrom firstNames "")
  | lastName => do return .text (← drawFrom lastNames "")
  | fullName => do
    let first ← drawFrom firstNames ""
    let last ← drawFrom lastNames ""
    return .text (first ++ " " ++ last)
  | between low high => do
    let n ← drawBetween low high ("range " ++ rangeText low high ")" ++ " is empty")
    return .int (Int64.ofInt n)
  | choice choices => drawFrom choices .null
  | digits length => do return .text (String.ofList (← drawDigits length []))
  | copies low high template => do
    if low = high then repeated low template
    else
      let n ← drawBetween low (high + 1)
        ("count range " ++ rangeText low high "]" ++ " is empty")
      repeated n.toNat template
  | yields v => pure v
  | fails message => throw (.failed message)
  | counts counter => do return .int (Int64.ofNat (← nextCount counter))
  | endless name => pure (.fixture name (endless name) 0)

end MockupStudio.Script
