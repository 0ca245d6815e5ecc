/-
Calls that wait for a pause.

* `Debounce`: the last argument and when it fires, a window after the call;
* `call`, `flush`, `cancel`: a call starts the window again; flushing fires at
  once; cancelling forgets the call;
* `expire`: what happens when the window is over.

Each operation gives the argument that fires, if one does.
-/
namespace MockupStudio

/-- Calls of which the last one fires once no further one has come for a
whole window. -/
structure Debounce (α : Type u) where
  /-- The length of the pause. -/
  window : Nat
  /-- The last argument that has not fired, and when it will. -/
  pending : Option (α × Nat) := none
  deriving Repr, DecidableEq, Inhabited

namespace Debounce

/-- Whether a call is waiting. -/
def isPending (d : Debounce α) : Bool := d.pending.isSome

/-- When the window is over. -/
def due? (d : Debounce α) : Option Nat := d.pending.map (·.2)

/-- Remembers an argument and starts the window again. -/
def call (now : Nat) (a : α) (d : Debounce α) : Debounce α :=
  { d with pending := some (a, now + d.window) }

/-- Forgets the waiting call. -/
def cancel (d : Debounce α) : Debounce α := { d with pending := none }

/-- Fires the waiting call now. -/
def flush (d : Debounce α) : Option α × Debounce α := (d.pending.map (·.1), d.cancel)

/-- Fires the waiting call at the end of its window. -/
def expire (d : Debounce α) : Option α × Debounce α := d.flush

/-- How many times the window can still end. -/
def weight (d : Debounce α) : Nat := if d.isPending then 1 else 0

theorem weight_expire {d : Debounce α} {t : Nat} (h : d.due? = some t) :
    d.expire.2.weight < d.weight := by
  cases hp : d.pending <;>
    simp_all [due?, expire, flush, cancel, weight, isPending]

end Debounce

end MockupStudio
