/-
Calls that fire at once, then at most once a window.

* `Rebounce`: the argument that waits for the end of the window, and the end
  of the window while one runs;
* `call`, `flush`, `cancel`: an idle one fires at once and starts a window;
  while a window runs the last argument waits; flushing fires it and lets the
  window run on; cancelling forgets it and ends the window;
* `expire`: at the end of a window the waiting argument fires and another
  window starts; with none waiting it is idle again.
-/
namespace MockupStudio

/-- Calls that fire at once when idle, otherwise at the end of the window,
the last argument counting. -/
structure Rebounce (α : Type u) where
  /-- The least distance between firings that are not flushed. -/
  window : Nat
  /-- The last argument that has not fired. -/
  pending : Option α := none
  /-- When the running window ends. -/
  cooling : Option Nat := none
  deriving Repr, DecidableEq, Inhabited

namespace Rebounce

/-- Whether an argument is waiting. -/
def isPending (r : Rebounce α) : Bool := r.pending.isSome

/-- Whether a window is running. -/
def isCooling (r : Rebounce α) : Bool := r.cooling.isSome

/-- When the window is over. -/
def due? (r : Rebounce α) : Option Nat := r.cooling

/-- Fires an argument when idle, otherwise keeps it for the end of the
window. -/
def call (now : Nat) (a : α) (r : Rebounce α) : Option α × Rebounce α :=
  match r.cooling with
  | some _ => (none, { r with pending := some a })
  | none => (some a, { r with cooling := some (now + r.window) })

/-- Forgets the waiting argument and ends the window. -/
def cancel (r : Rebounce α) : Rebounce α := { r with pending := none, cooling := none }

/-- Fires the waiting argument now; the window runs on. -/
def flush (r : Rebounce α) : Option α × Rebounce α := (r.pending, { r with pending := none })

/-- The end of the window at a given time. -/
def expire (time : Nat) (r : Rebounce α) : Option α × Rebounce α :=
  match r.pending with
  | some a => (some a, { r with pending := none, cooling := some (time + r.window) })
  | none => (none, { r with cooling := none })

/-- How many times a window can still end without further calls. -/
def weight (r : Rebounce α) : Nat :=
  (if r.isCooling then 1 else 0) + (if r.isPending then 1 else 0)

theorem weight_expire {r : Rebounce α} {t : Nat} (time : Nat) (h : r.due? = some t) :
    (r.expire time).2.weight < r.weight := by
  cases hp : r.pending <;> simp_all [due?, expire, weight, isPending, isCooling]

end Rebounce

end MockupStudio
