/-
A whole run of the program.

* `Surroundings`: what a run depends on besides its words and the state;
* `Action.perform`: what a command does;
* `Invocation.perform`: loads the options, opens the store and does it;
* `Outcome`: what is printed, with the exit code; `run` gives it for every
  command line. A run that fails prints nothing.
-/
import MockupStudio.Command.Arguments
import MockupStudio.Command.Watch

namespace MockupStudio

/-- What a run depends on besides its words and the state. -/
structure Surroundings (σ : Type) where
  environment : Bindings String := []
  /-- The reading of the clock. -/
  moment : Timestamp
  /-- The seed of a run for which none is given. -/
  chance : Nat := 0
  /-- How services are reached. -/
  send : Request → StateM σ Reply
  /-- The changes of files while a directory is watched. -/
  changes : List FileChange := []

variable {σ : Type}

/-- Does what a command says. -/
def Action.perform [HasDisk σ] (around : Surroundings σ) (store : DocumentStore σ)
    (options : Options) : Action → Commanding σ String
  | .list => Command.list store
  | .show id => Command.show store options id
  | .sample id count => Command.sample store options id count
  | .importFrom id directory name => Command.importFrom store around.moment id directory name
  | .exportTo id path => Command.exportTo store options id path
  | .watch id directory =>
    Command.watch store options around.moment id directory around.changes
  | .remove id => Command.remove store id

/-- The options of an invocation, and the store they ask for. -/
def Invocation.prepare [HasDisk σ] (around : Surroundings σ) (i : Invocation) :
    Commanding σ (Options × DocumentStore σ) := do
  match Options.load (HasDisk.disk (← get)) i.file around.environment i.overrides with
  | .error e => throw e
  | .ok options =>
    let options := { options with seed := options.seed.or (some around.chance) }
    return (options, ← Command.openStore around.send options)

/-- Does what an invocation asks for. -/
def Invocation.perform [HasDisk σ] (around : Surroundings σ) (i : Invocation) :
    Commanding σ String := do
  let (options, store) ← i.prepare around
  i.action.perform around store options

/-- What a run leaves to whoever started it. -/
structure Outcome where
  code : Nat
  output : String
  deriving Repr, DecidableEq

namespace Outcome

/-- The outcome of a run that ends before there is anything to do. -/
def ofInterruption : Interruption → Outcome
  | .misuse => ⟨2, ""⟩
  | .shown text => ⟨0, text⟩

/-- The outcome of a command. -/
def ofResult : EStateM.Result CommandError σ String → Outcome × σ
  | .ok text s => (⟨0, text⟩, s)
  | .error e s => (⟨e.exitCode, ""⟩, s)

end Outcome

/-- A run of the program. -/
def run [HasDisk σ] (around : Surroundings σ) (words : List String) : StateM σ Outcome := fun s =>
  match Invocation.read around.environment words with
  | .error e => (Outcome.ofInterruption e, s)
  | .ok i => Outcome.ofResult (i.perform around s)

end MockupStudio
