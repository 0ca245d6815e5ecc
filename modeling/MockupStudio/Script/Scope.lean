/-
Variables.

* `Scope`: the variables of one block, in no particular order;
* `Environment`: local scopes, the innermost first, over read-only helpers;
* `Environment.assign`: an assignment goes to the innermost local variable
  of that name, and is refused for helpers and unknown names;
* `Environment.snapshot`: all local variables, inner ones hiding outer ones.
-/
import MockupStudio.Script.Value

namespace MockupStudio.Script

/-- The variables of one block. -/
abbrev Scope := Bindings Value

/-- Gives a variable a new value if it is there. -/
def Scope.assign? (name : String) (value : Value) (scope : Scope) : Option Scope :=
  if Bindings.contains name scope then some (Bindings.insert name value scope) else none

/-- Local scopes over the helpers. -/
structure Environment where
  /-- The scopes that are open, the innermost first. -/
  scopes : List Scope
  helpers : Scope
  deriving Inhabited

/-- What came of an assignment. -/
inductive Assignment where
  | updated
  | readOnly
  | undefined
  deriving Repr, DecidableEq

/-! ### Scope stacks -/

/-- The innermost value of a name. -/
def lookup (name : String) : List Scope → Option Value
  | [] => none
  | scope :: outer =>
    match Bindings.get? name scope with
    | some v => some v
    | none => lookup name outer

/-- The stack with a new value for the innermost variable of a name. -/
def assign? (name : String) (value : Value) : List Scope → Option (List Scope)
  | [] => none
  | scope :: outer =>
    match Scope.assign? name value scope with
    | some scope => some (scope :: outer)
    | none => (assign? name value outer).map (scope :: ·)

/-- The stack with a variable in its innermost scope. -/
def define (name : String) (value : Value) : List Scope → List Scope
  | [] => []
  | scope :: outer => Bindings.insert name value scope :: outer

/-- The stack without its innermost scope, unless that is the only one. -/
def popped : List Scope → List Scope
  | _ :: scope :: outer => scope :: outer
  | scopes => scopes

/-- All variables of a stack, inner ones hiding outer ones. -/
def flattened (scopes : List Scope) : Scope :=
  scopes.foldr (fun scope outer => Bindings.insertAll outer scope) []

namespace Environment

/-- One empty scope over the helpers. -/
def ofHelpers (helpers : Scope) : Environment := ⟨[[]], helpers⟩

/-- The value of a name, local ones first. -/
def get? (name : String) (env : Environment) : Option Value :=
  match lookup name env.scopes with
  | some v => some v
  | none => Bindings.get? name env.helpers

/-- Whether a name has a value. -/
def contains (name : String) (env : Environment) : Bool := (env.get? name).isSome

/-- Assigns to the innermost local variable of a name. -/
def assign (name : String) (value : Value) (env : Environment) : Assignment × Environment :=
  match assign? name value env.scopes with
  | some scopes => (.updated, { env with scopes })
  | none => (if Bindings.contains name env.helpers then .readOnly else .undefined, env)

/-- Defines a variable in the innermost scope. -/
def define (name : String) (value : Value) (env : Environment) : Environment :=
  { env with scopes := Script.define name value env.scopes }

/-- Opens a scope. -/
def push (env : Environment) : Environment := { env with scopes := [] :: env.scopes }

/-- Closes the innermost scope, never the outermost one. -/
def pop (env : Environment) : Environment := { env with scopes := popped env.scopes }

/-- The number of open scopes. -/
def depth (env : Environment) : Nat := env.scopes.length

/-- All local variables. -/
def snapshot (env : Environment) : Scope := flattened env.scopes

/-- The helpers without any local variables. -/
def child (env : Environment) : Environment := ofHelpers env.helpers

/-- A summary of the sizes of an environment. -/
def summary (env : Environment) : String :=
  "Environment \x7b scope_depth: " ++ toString env.depth
    ++ ", local_vars: " ++ toString (env.scopes.foldr (fun scope total => scope.length + total) 0)
    ++ ", global_vars: " ++ toString env.helpers.length ++ " \x7d"

end Environment

end MockupStudio.Script
