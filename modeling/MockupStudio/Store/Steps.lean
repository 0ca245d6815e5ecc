/-
What a call does to a directory, step by step.

* `Steps`: the steps of a call, each with what is done next; every step is
  one that other users of the directory see as a whole;
* `Steps.advance`: takes the next step;
* `Steps.alone`: a call that nobody comes between.
-/
import MockupStudio.Store.Folder

namespace MockupStudio

/-- The steps of a call that gives a value. -/
inductive Steps (α : Type) where
  | done (value : α)
  | failed (error : StoreError)
  /-- Reads a file, if there is one of that name. -/
  | read (name : String) (next : Option String → Steps α)
  /-- Writes a file. -/
  | write (name text : String) (next : Steps α)
  /-- Gives a file another name, in place of the file of that name. -/
  | rename (source target : String) (next : Steps α)
  /-- Deletes a file, if there is one of that name. -/
  | delete (name : String) (next : Bool → Steps α)

namespace Steps

/-- Goes on with the value that a call gives. -/
def andThen : Steps α → (α → Steps β) → Steps β
  | done a, k => k a
  | failed e, _ => failed e
  | read name next, k => read name fun text => andThen (next text) k
  | write name text next, k => write name text (andThen next k)
  | rename source target next, k => rename source target (andThen next k)
  | delete name next, k => delete name fun there => andThen (next there) k

/-- The steps for an id; a text that is no id is refused before the first. -/
def forId (id : String) (steps : Steps α) : Steps α :=
  if Id.isValid id then steps else failed (.invalidId id)

/-- Takes the next step, and gives those that are left. -/
def advance : Steps α → Storing Folder (Steps α)
  | done a => pure (done a)
  | failed e => throw e
  | read name next => return next (← Folder.read name)
  | write name text next => do
    Folder.write name text
    return next
  | rename source target next => do
    Folder.rename source target
    return next
  | delete name next => return next (← Folder.delete name)

/-- Takes all steps one after the other. -/
def alone : Steps α → Storing Folder α
  | done a => pure a
  | failed e => throw e
  | read name next => do alone (next (← Folder.read name))
  | write name text next => do
    Folder.write name text
    alone next
  | rename source target next => do
    Folder.rename source target
    alone next
  | delete name next => do alone (next (← Folder.delete name))

end Steps

end MockupStudio
