/-
A preview with the store its document is kept in.

* `Session`: preview, store contents and time;
* `Session.carryOut`: the saves that have been started, in their order; one
  that fails becomes a notice;
* `open`, `save`, `rename`, `flush`: the operations that need the store;
* `Session.settle`, `Session.advance`: the passing of time. At each instant
  windows end first and the saves they start are carried out next.
-/
import MockupStudio.Preview.Editing
import MockupStudio.Store.Basic

namespace MockupStudio

/-- A preview at work. -/
structure Session (σ : Type) where
  preview : Preview
  contents : σ
  now : Nat := 0

namespace Session

variable {σ : Type}

/-- Changes the preview. -/
def modify (f : Preview → Preview) (s : Session σ) : Session σ :=
  { s with preview := f s.preview }

/-- Carries out one save. -/
def carryOutOne (store : DocumentStore σ) (moment : Timestamp) (s : Session σ)
    (save : Stage × String) : Session σ :=
  match store.saveField moment s.preview.id save.1 save.2 s.contents with
  | .ok () contents => { s with contents }
  | .error e contents => { s with contents, preview := s.preview.saved (.error e) }

/-- Carries out the saves that have been started. -/
def carryOut (store : DocumentStore σ) (moment : Timestamp) (s : Session σ) : Session σ :=
  s.preview.started.foldl (carryOutOne store moment)
    (s.modify fun p => { p with started := [] })

/-- A step on the store whose failure is a failure of the preview. -/
def onStore (s : Session σ) (step : Storing σ α) (f : α → Preview → Preview) :
    Except PreviewError Unit × Session σ :=
  match step s.contents with
  | .ok a contents => (.ok (), { s with contents, preview := f a s.preview })
  | .error e contents => (.error (.store e), { s with contents })

/-- Loads the document from the store. -/
def openDocument (store : DocumentStore σ) (s : Session σ) :
    Except PreviewError Unit × Session σ :=
  s.onStore (store.get s.preview.id) fun document p => p.load document.name document.sources

/-- Saves name and texts. -/
def save (store : DocumentStore σ) (moment : Timestamp) (s : Session σ) :
    Except PreviewError Unit × Session σ :=
  s.onStore (store.save moment s.preview.id s.preview.name s.preview.sources) fun _ p => p

/-- Gives the document another name. -/
def rename (store : DocumentStore σ) (moment : Timestamp) (name : String) (s : Session σ) :
    Except PreviewError Unit × Session σ :=
  s.onStore (store.rename moment s.preview.id name) fun _ p => { p with name }

/-- Compiles and saves everything that is waiting. -/
def flush (store : DocumentStore σ) (moment : Timestamp) (s : Session σ) : Session σ :=
  (s.modify Preview.flush).carryOut store moment

/-- Ends at most `ends` windows that are due by a given time, carrying out
saves before time moves on. -/
def runUntil (store : DocumentStore σ) (moment : Timestamp) (time : Nat) :
    Nat → Session σ → Session σ
  | 0, s => s
  | ends + 1, s =>
    match s.preview.next? with
    | some (due, alarm) =>
      if due ≤ time then
        let s := if s.now < due then { s.carryOut store moment with now := due } else s
        runUntil store moment time ends (s.modify (Preview.expire alarm due))
      else s
    | none => s

/-- Lets time pass. -/
def advance (store : DocumentStore σ) (moment : Timestamp) (span : Nat) (s : Session σ) :
    Session σ :=
  let time := s.now + span
  let s := (runUntil store moment time s.preview.weight s).carryOut store moment
  { s with now := time }

/-- Everything that is due by now. -/
def settle (store : DocumentStore σ) (moment : Timestamp) (s : Session σ) : Session σ :=
  s.advance store moment 0

end Session

end MockupStudio
