/-
From script text to samples.

* `ScriptError`: everything that can be wrong with a script, and
  `CompileError`, its wording with a line where there is one;
* `Program`: a script with its limits; `Program.invoke` runs it,
  `Program.sample` runs it and expands what it returns;
* `Program.compile`: reads a script and runs it once, so that a script that
  fails is refused at once.

A run makes no draws: they are all made when its value is expanded.
-/
import MockupStudio.Script.Evaluator
import MockupStudio.Script.Lexer
import MockupStudio.Script.Resolver

namespace MockupStudio.Script

/-- What is wrong with a script. -/
inductive ScriptError where
  | lex (error : LexError)
  | parse (error : ParseError)
  | runtime (error : RuntimeError)
  | resolve (error : ResolveError)
  | panicked (complaint : String)

/-- The line an error points at, if it points at one. -/
def ScriptError.line? : ScriptError → Option Nat
  | lex e => some e.position.line
  | parse e => some e.line
  | _ => none

/-- The wording of an error. -/
def ScriptError.message : ScriptError → String
  | lex e => "Syntax error: " ++ e.message
  | parse e => "Syntax error: " ++ e.message
  | runtime e => "Runtime error: " ++ e.message
  | resolve e => "Resolution failed: " ++ e.message
  | panicked complaint => "Script panicked: " ++ complaint

/-- A text that could not be turned into something usable. -/
structure CompileError where
  message : String
  line : Option Nat
  deriving Repr, DecidableEq

/-- The wording and the line of a script error. -/
def ScriptError.toCompileError (e : ScriptError) : CompileError := ⟨e.message, e.line?⟩

/-- A script with the limits it runs under. -/
structure Program where
  code : Code
  limits : Limits

/-- Sampling: expanding values draws from the supply. -/
abbrev Sampling := EStateM ScriptError Supply

namespace Program

/-- The helpers a program may call. -/
def helpers (limits : Limits) : Scope :=
  helperScope 0 limits.maxRepeat limits.maxResolveDepth

/-- The script of a text, within the nesting limit. -/
def read (limits : Limits) (text : String) : Except ScriptError Program :=
  match tokenize text.toList with
  | .error e => .error (.lex e)
  | .ok tokens =>
    match Code.parse limits.maxNesting tokens with
    | .error e => .error (.parse e)
    | .ok script => .ok ⟨script, limits⟩

/-- Runs a program; fixtures are part of the value it gives. -/
def invoke (p : Program) : Except ScriptError Value :=
  match Run.script ⟨p.limits, helpers p.limits, 0⟩ p.code Machine.start with
  | .ok v _ => .ok v
  | .error e _ => .error (.runtime e)

/-- A program that has been run once without failing. -/
def compile (limits : Limits) (text : String) : Except ScriptError Program :=
  match read limits text with
  | .error e => .error e
  | .ok p =>
    match p.invoke with
    | .error e => .error e
    | .ok _ => .ok p

/-- How far values are expanded. -/
def resolver (p : Program) : Resolver := ⟨p.limits.maxResolveDepth, p.limits.maxResolvedNodes⟩

/-- Expands every fixture in a value. -/
def resolve (p : Program) (v : Value) : Sampling Json := fun supply =>
  match p.resolver.resolve Recipe.force v supply with
  | .ok data supply => .ok data supply
  | .error (.refused e) supply => .error (.resolve e) supply
  | .error (.aborted complaint) supply => .error (.panicked complaint) supply

/-- Runs a program and expands what it gives. -/
def sample (p : Program) : Sampling Json := fun supply =>
  match p.invoke with
  | .ok v => p.resolve v supply
  | .error e => .error e supply

end Program

end MockupStudio.Script
