/-
Timers on one clock.

* `earliest?`: the first of some times, with its laws;
* `Timer`: a `Debounce` or a `Rebounce`, and their common operations;
* `Agenda`: the time and some timers; a removed one leaves its place empty;
* `Agenda.next?`: the window that ends first;
* `Agenda.settle`: everything that is due by now; `Agenda.advance`: lets time
  pass, windows ending in the order of their times.

Every end of a window lowers `Agenda.weight`, so the weight bounds how many
windows can end when time passes.
-/
import MockupStudio.Schedule.Debounce
import MockupStudio.Schedule.Rebounce

namespace MockupStudio

/-- The earliest of some times that carry labels, of equal ones the first. -/
def earliest? : List (Nat × β) → Option (Nat × β)
  | [] => none
  | x :: xs =>
    match earliest? xs with
    | some y => if y.1 < x.1 then some y else some x
    | none => some x

section Earliest

variable {β : Type u} {xs : List (Nat × β)} {y : Nat × β}

theorem earliest?_eq_none (h : earliest? xs = none) : xs = [] := by
  cases xs with
  | nil => rfl
  | cons x xs =>
    rw [earliest?] at h
    split at h
    · split at h <;> cases h
    · cases h

theorem earliest?_mem (h : earliest? xs = some y) : y ∈ xs := by
  induction xs generalizing y with
  | nil => cases h
  | cons x xs ih =>
    rw [earliest?] at h
    split at h
    · next z hz =>
      split at h <;> cases h
      · exact List.mem_cons_of_mem _ (ih hz)
      · exact List.mem_cons_self
    · cases h
      exact List.mem_cons_self

theorem le_of_earliest? (h : earliest? xs = some y) : ∀ x ∈ xs, y.1 ≤ x.1 := by
  induction xs generalizing y with
  | nil => cases h
  | cons x xs ih =>
    rw [List.forall_mem_cons]
    rw [earliest?] at h
    split at h
    · next z hz =>
      have hle := ih hz
      split at h
      · cases h
        exact ⟨by omega, hle⟩
      · cases h
        exact ⟨Nat.le_refl _, fun w hw => by have := hle w hw; omega⟩
    · next hnone =>
      cases h
      rw [earliest?_eq_none hnone]
      exact ⟨Nat.le_refl _, fun _ hw => (List.not_mem_nil hw).elim⟩

end Earliest

/-- A wrapper that delays calls. -/
inductive Timer (α : Type u) where
  | debounce (wrapper : Debounce α)
  | rebounce (wrapper : Rebounce α)
  deriving Repr, DecidableEq

namespace Timer

/-- The window of a timer. -/
def window : Timer α → Nat
  | debounce d => d.window
  | rebounce r => r.window

/-- When the window ends. -/
def due? : Timer α → Option Nat
  | debounce d => d.due?
  | rebounce r => r.due?

/-- A call; gives the argument that fires. -/
def call (now : Nat) (a : α) : Timer α → Option α × Timer α
  | debounce d => (none, debounce (d.call now a))
  | rebounce r => ((r.call now a).1, rebounce (r.call now a).2)

/-- Fires what is waiting. -/
def flush : Timer α → Option α × Timer α
  | debounce d => (d.flush.1, debounce d.flush.2)
  | rebounce r => (r.flush.1, rebounce r.flush.2)

/-- Forgets what is waiting. -/
def cancel : Timer α → Timer α
  | debounce d => debounce d.cancel
  | rebounce r => rebounce r.cancel

/-- The end of a window. -/
def expire (time : Nat) : Timer α → Option α × Timer α
  | debounce d => (d.expire.1, debounce d.expire.2)
  | rebounce r => ((r.expire time).1, rebounce (r.expire time).2)

/-- How many times a window can still end without further calls. -/
def weight : Timer α → Nat
  | debounce d => d.weight
  | rebounce r => r.weight

theorem weight_expire {timer : Timer α} {t : Nat} (time : Nat) (h : timer.due? = some t) :
    (timer.expire time).2.weight < timer.weight := by
  cases timer with
  | debounce d => exact Debounce.weight_expire h
  | rebounce r => exact Rebounce.weight_expire time h

end Timer

/-- An argument that fires: of which timer, and when. -/
structure Firing (α : Type u) where
  timer : Nat
  time : Nat
  arg : α
  deriving Repr, DecidableEq

/-- The time, and timers that run on it. -/
structure Agenda (α : Type u) where
  now : Nat := 0
  timers : List (Option (Timer α))
  deriving Repr, DecidableEq

namespace Agenda

/-- The timer at a place, if it is there. -/
def timer? (agenda : Agenda α) (i : Nat) : Option (Timer α) := (agenda.timers[i]?).join

/-- Puts a timer in a place. -/
def put (i : Nat) (timer : Option (Timer α)) (agenda : Agenda α) : Agenda α :=
  { agenda with timers := agenda.timers.set i timer }

/-- When windows end, with the places of their timers. -/
def dues (agenda : Agenda α) : List (Nat × Nat) :=
  agenda.timers.zipIdx.filterMap fun (timer, i) =>
    (timer.bind Timer.due?).map fun t => (t, i)

/-- The window that ends first: when, and the place of its timer. -/
def next? (agenda : Agenda α) : Option (Nat × Nat) := earliest? agenda.dues

/-- Notes what fires. -/
def firing (i time : Nat) : Option α → List (Firing α)
  | some a => [⟨i, time, a⟩]
  | none => []

/-- The end of the window of one timer, at a given time. -/
def expire (i time : Nat) (agenda : Agenda α) : List (Firing α) × Agenda α :=
  match agenda.timer? i with
  | some timer =>
    let (fired, timer) := timer.expire time
    (firing i time fired, agenda.put i (some timer))
  | none => ([], agenda)

/-- How many windows can still end. -/
def weight (agenda : Agenda α) : Nat :=
  agenda.timers.foldr (fun timer total => (timer.map Timer.weight).getD 0 + total) 0

/-- Ends at most `ends` windows that are due by a given time, the earliest
first. -/
def runUntil (time : Nat) : Nat → Agenda α → List (Firing α) × Agenda α
  | 0, agenda => ([], agenda)
  | ends + 1, agenda =>
    match agenda.next? with
    | some (due, i) =>
      if due ≤ time then
        let (fired, agenda) := agenda.expire i due
        let (more, agenda) := runUntil time ends agenda
        (fired ++ more, agenda)
      else ([], agenda)
    | none => ([], agenda)

/-- Ends every window that is due by now. -/
def settle (agenda : Agenda α) : List (Firing α) × Agenda α :=
  runUntil agenda.now agenda.weight agenda

/-- Lets time pass. -/
def advance (span : Nat) (agenda : Agenda α) : List (Firing α) × Agenda α :=
  let time := agenda.now + span
  let (fired, agenda) := runUntil time agenda.weight agenda
  (fired, { agenda with now := time })

/-- Calls a timer. -/
def call (i : Nat) (a : α) (agenda : Agenda α) : List (Firing α) × Agenda α :=
  match agenda.timer? i with
  | some timer =>
    let (fired, timer) := timer.call agenda.now a
    (firing i agenda.now fired, agenda.put i (some timer))
  | none => ([], agenda)

/-- Flushes a timer. -/
def flush (i : Nat) (agenda : Agenda α) : List (Firing α) × Agenda α :=
  match agenda.timer? i with
  | some timer =>
    let (fired, timer) := timer.flush
    (firing i agenda.now fired, agenda.put i (some timer))
  | none => ([], agenda)

/-- Cancels a timer. -/
def cancel (i : Nat) (agenda : Agenda α) : Agenda α :=
  agenda.put i ((agenda.timer? i).map Timer.cancel)

/-- Removes a timer. -/
def drop (i : Nat) (agenda : Agenda α) : Agenda α := agenda.put i none

end Agenda

end MockupStudio
