/-
From a script's value to plain data.

* `Resolver`: how deep to walk and how many values to visit;
* `Resolver.walk`: forces every fixture it meets, in the order of array items
  and of object keys, and walks what the fixture yields; functions become
  null, as do floats that are no number or infinite;
* `Resolver.resolve`: walks a value from the start.

What forcing a fixture does is a parameter: the walk ends whatever it does,
as each step takes it one level deeper and every value visited is counted.
-/
import MockupStudio.Script.Library

namespace MockupStudio.Script

/-- Why a value has no plain data. -/
inductive ResolveError where
  | fixture (name message : String)
  | depthExceeded (limit : Nat)
  | tooLarge (limit : Nat)
  deriving Repr, DecidableEq

/-- The wording of an error. -/
def ResolveError.message : ResolveError → String
  | fixture name message => "fixture " ++ name ++ " failed: " ++ message
  | depthExceeded limit => "resolution exceeded depth " ++ toString limit
  | tooLarge limit => "resolution produced more than " ++ toString limit ++ " values"

/-- Why a walk stops. -/
inductive WalkStop where
  | refused (error : ResolveError)
  /-- The source of draws broke off, or there was no room for an array. -/
  | aborted (complaint : String)
  deriving Repr, DecidableEq

/-- How far to walk; numbers below the last word of 64 bits are meant, as a walk counts
one past them. -/
structure Resolver where
  maxDepth : Nat := 256
  maxNodes : Nat := 1000000
  deriving Repr, DecidableEq

/-- The values visited so far, one more than the limit at most, and what forcing
depends on. -/
structure WalkState (σ : Type) where
  visited : Nat
  world : σ

/-- A walk. -/
abbrev Walk (σ : Type) := EStateM WalkStop (WalkState σ)

namespace Resolver

variable {σ : Type}

/-- Counts a visited value. -/
def visit (r : Resolver) : Walk σ Unit := fun s =>
  let s := { s with visited := s.visited + 1 }
  if r.maxNodes < s.visited then .error (.refused (.tooLarge r.maxNodes)) s else .ok () s

/-- Forces a fixture. -/
def forcing (name : String) (force : EStateM ForceFailure σ Value) : Walk σ Value := fun s =>
  match force s.world with
  | .ok v world => .ok v { s with world }
  | .error (.failed message) world =>
    .error (.refused (.fixture name message)) { s with world }
  | .error (.aborted complaint) world => .error (.aborted complaint) { s with world }

/-- The plain data of a value, with so many levels left to walk. -/
def walk (r : Resolver) (force : Recipe → EStateM ForceFailure σ Value) :
    Nat → Value → Walk σ Json
  | 0, _ => throw (.refused (.depthExceeded r.maxDepth))
  | levels + 1, v => do
    r.visit
    match v with
    | .null => pure .null
    | .bool b => pure (.bool b)
    | .int n => pure (.int n.toInt)
    | .float x => pure (if x.isFinite then .float x else .null)
    | .text s => pure (.text s)
    | .array items =>
      let data ← items.mapM (walk r force levels)
      pure (.array data)
    | .object members =>
      let data ← (Bindings.sorted members).mapM fun m => do
        let d ← walk r force levels m.2
        pure (m.1, d)
      pure (.object data)
    | .fixture name recipe _ =>
      let v ← forcing name (force recipe)
      walk r force levels v
    | .function .. => pure .null
    | .native _ => pure .null

/-- The plain data of a value. -/
def resolve (r : Resolver) (force : Recipe → EStateM ForceFailure σ Value) (v : Value) :
    EStateM WalkStop σ Json := fun world =>
  match r.walk force (r.maxDepth + 1) v ⟨0, world⟩ with
  | .ok data s => .ok data s.world
  | .error stop s => .error stop s.world

end Resolver

end MockupStudio.Script
