/-
Debounced calls by means of tasks.

* `Sleeper`: a task that sleeps until the window of a call is over;
* `Tasked`: a wrapper that knows what is pending, the task of its last call,
  and a generation that every operation raises, so that no other task fires;
* `Clockwork`: the wrapper, the time and the tasks that sleep; a task that is
  aborted may be gone at once or wake all the same;
* `Clockwork.Matches`: the agenda that such a clockwork amounts to;
* `matches_run`: a step keeps it, and fires the same;
* `fires_exactly`: the law of firings holds with an agenda and with tasks,
  whichever aborts come in time.
-/
import MockupStudio.Proofs.Schedule.Pauses

namespace MockupStudio.Debounce

variable {α : Type}

/-- A task that sleeps until the window of a call is over. -/
structure Sleeper where
  due : Nat
  /-- The generation of the call. -/
  generation : Nat

/-- A wrapper whose calls are fired by tasks. -/
structure Tasked (α : Type) where
  window : Nat
  /-- The last argument that has not fired. -/
  pending : Option α := none
  /-- The generation of the task that may be aborted. -/
  timer : Option Nat := none
  /-- Raised by every operation, so that no earlier task fires. -/
  generation : Nat := 0

namespace Tasked

/-- Nothing is pending any more. -/
def spent (d : Tasked α) : Tasked α := { d with pending := none, timer := none }

/-- A task that wakes fires what is pending, unless it comes from an earlier
generation. -/
def wake (s : Sleeper) (d : Tasked α) : List (Nat × α) × Tasked α :=
  if s.generation = d.generation then
    ((d.pending.map fun a => (s.due, a)).toList, d.spent)
  else ([], d)

/-- Some tasks wake, one after the other. -/
def wakeAll : List Sleeper → Tasked α → List (Nat × α) × Tasked α
  | [], d => ([], d)
  | s :: rest, d => ((d.wake s).1 ++ (wakeAll rest (d.wake s).2).1, (wakeAll rest (d.wake s).2).2)

/-- Nothing is pending any more, and no task fires that sleeps now. -/
def emptied (d : Tasked α) : Tasked α := { d.spent with generation := d.generation + 1 }

/-- A call is pending, and no task fires that sleeps now. -/
def called (a : α) (d : Tasked α) : Tasked α :=
  { d with pending := some a, timer := some (d.generation + 1), generation := d.generation + 1 }

end Tasked

/-- A wrapper, until it is dropped, with the time and the tasks that sleep. -/
structure Clockwork (α : Type) where
  now : Nat := 0
  wrapper : Option (Tasked α)
  sleepers : List Sleeper := []

namespace Clockwork

/-- The tasks that sleep once a task has been aborted, if the abort of a task
of that generation comes in time. -/
def aborted (inTime : Nat → Bool) (timer : Option Nat) (sleepers : List Sleeper) : List Sleeper :=
  sleepers.filter fun s => !(timer == some s.generation && inTime s.generation)

/-- A wrapper with one window. -/
def start (w : Nat) : Clockwork α := { wrapper := some { window := w } }

/-- A step, without the tasks that are due by then. -/
def act (inTime : Nat → Bool) (s : Step α) (c : Clockwork α) : List (Nat × α) × Clockwork α :=
  match s, c.wrapper with
  | .advance span, _ => ([], { c with now := c.now + span })
  | _, none => ([], c)
  | .call a, some d =>
    ([], { c with
      wrapper := some (d.called a)
      sleepers := aborted inTime d.timer c.sleepers ++ [⟨c.now + d.window, d.generation + 1⟩] })
  | .flush, some d =>
    ((d.pending.map fun a => (c.now, a)).toList,
      { c with wrapper := some d.emptied, sleepers := aborted inTime d.timer c.sleepers })
  | .cancel, some d =>
    ([], { c with wrapper := some d.emptied, sleepers := aborted inTime d.timer c.sleepers })
  | .drop, some d =>
    ([], { c with wrapper := none, sleepers := aborted inTime d.timer c.sleepers })

/-- Every task that is due wakes; without the wrapper it does nothing. -/
def settle (c : Clockwork α) : List (Nat × α) × Clockwork α :=
  let due := c.sleepers.filter fun s => s.due ≤ c.now
  let later := c.sleepers.filter fun s => c.now < s.due
  match c.wrapper with
  | some d => ((d.wakeAll due).1, { c with wrapper := some (d.wakeAll due).2, sleepers := later })
  | none => ([], { c with sleepers := later })

/-- A step with the tasks that are due by then. -/
def run (inTime : Nat → Bool) (s : Step α) (c : Clockwork α) : List (Nat × α) × Clockwork α :=
  ((c.act inTime s).1 ++ (c.act inTime s).2.settle.1, (c.act inTime s).2.settle.2)

/-- What some steps leave. -/
def after (inTime : Nat → Bool) (w : Nat) (steps : List (Step α)) : Clockwork α :=
  steps.foldl (fun c s => (c.run inTime s).2) (start w)

/-- What a step fires. -/
def fired (inTime : Nat → Bool) (w : Nat) : Fires α := fun before s =>
  ((after inTime w before).run inTime s).1

/-- What is pending after some steps, as `is_pending` and `flush` see it. -/
def pending? (inTime : Nat → Bool) (w : Nat) (steps : List (Step α)) : Option α :=
  (after inTime w steps).wrapper.bind (·.pending)

end Clockwork

/-! ### What is waiting -/

/-- A wrapper and its tasks hold what an agenda would: the task of the last
call sleeps until the call is due, and none of its generation sleeps longer or
shorter. -/
structure Tasked.Holds (d : Tasked α) (sleepers : List Sleeper) (p : Option (α × Nat)) : Prop where
  pending : d.pending = p.map (·.1)
  le : ∀ s ∈ sleepers, s.generation ≤ d.generation
  sleeps : ∀ a due, p = some (a, due) → ⟨due, d.generation⟩ ∈ sleepers
  due : ∀ a due, p = some (a, due) → ∀ s ∈ sleepers, s.generation = d.generation → s.due = due

/-- A clockwork that amounts to an agenda. -/
inductive Clockwork.Matches : Clockwork α → Agenda α → Prop where
  | dropped (time : Nat) (tasks : List Sleeper) : Matches ⟨time, none, tasks⟩ ⟨time, [none]⟩
  | held {d : Tasked α} {tasks : List Sleeper} {p : Option (α × Nat)} (time : Nat) :
      d.Holds tasks p → Matches ⟨time, some d, tasks⟩ (holding time d.window p)

section Waking

variable {d : Tasked α} {tasks : List Sleeper} {s : Sleeper} {a : α} {due : Nat}

lemma wake_of_ne (h : s.generation ≠ d.generation) : d.wake s = ([], d) := if_neg h

lemma wakeAll_of_ne (h : ∀ s ∈ tasks, s.generation ≠ d.generation) :
    d.wakeAll tasks = ([], d) := by
  induction tasks with
  | nil => rfl
  | cons s rest ih =>
    rw [List.forall_mem_cons] at h
    rw [Tasked.wakeAll, wake_of_ne h.1, ih h.2]
    rfl

lemma generation_wake (s : Sleeper) (d : Tasked α) : (d.wake s).2.generation = d.generation := by
  rw [Tasked.wake]
  split <;> rfl

lemma generation_wakeAll (tasks : List Sleeper) (d : Tasked α) :
    (d.wakeAll tasks).2.generation = d.generation := by
  induction tasks generalizing d with
  | nil => rfl
  | cons s rest ih => exact (ih _).trans (generation_wake s d)

lemma window_wake (s : Sleeper) (d : Tasked α) : (d.wake s).2.window = d.window := by
  rw [Tasked.wake]
  split <;> rfl

lemma window_wakeAll (tasks : List Sleeper) (d : Tasked α) :
    (d.wakeAll tasks).2.window = d.window := by
  induction tasks generalizing d with
  | nil => rfl
  | cons s rest ih => exact (ih _).trans (window_wake s d)

/-- Nothing fires when nothing is pending. -/
lemma wakeAll_of_none (h : d.pending = none) (tasks : List Sleeper) :
    (d.wakeAll tasks).1 = [] ∧ (d.wakeAll tasks).2.pending = none := by
  induction tasks generalizing d with
  | nil => exact ⟨rfl, h⟩
  | cons s rest ih =>
    have hwake : (d.wake s).1 = [] ∧ (d.wake s).2.pending = none := by
      rw [Tasked.wake, h]
      split
      · exact ⟨rfl, rfl⟩
      · exact ⟨rfl, h⟩
    obtain ⟨hfired, hpending⟩ := ih hwake.2
    exact ⟨by rw [Tasked.wakeAll, hwake.1, hfired]; rfl, hpending⟩

/-- What is pending fires once if the task of the last call wakes. -/
lemma wakeAll_of_mem (h : d.pending = some a) (hmem : ⟨due, d.generation⟩ ∈ tasks)
    (hdue : ∀ s ∈ tasks, s.generation = d.generation → s.due = due) :
    (d.wakeAll tasks).1 = [(due, a)] ∧ (d.wakeAll tasks).2.pending = none := by
  induction tasks with
  | nil => cases hmem
  | cons s rest ih =>
    rw [List.forall_mem_cons] at hdue
    by_cases hs : s.generation = d.generation
    · have hwake : d.wake s = ([(due, a)], d.spent) := by
        rw [Tasked.wake, if_pos hs, hdue.1 hs, h]
        rfl
      have hrest : (d.spent.wakeAll rest).1 = [] ∧ (d.spent.wakeAll rest).2.pending = none :=
        wakeAll_of_none rfl rest
      rw [Tasked.wakeAll, hwake, hrest.1]
      exact ⟨rfl, hrest.2⟩
    · have hrest : ⟨due, d.generation⟩ ∈ rest := by
        refine (List.mem_cons.mp hmem).resolve_left ?_
        rintro rfl
        exact hs rfl
      rw [Tasked.wakeAll, wake_of_ne hs]
      exact ih hrest hdue.2

end Waking

/-! ### Steps -/

section Steps

variable {d : Tasked α} {tasks : List Sleeper} {p : Option (α × Nat)} {time due : Nat} {a : α}
  {inTime : Nat → Bool}

lemma Tasked.Holds.le_of_mem_aborted (h : d.Holds tasks p) {s : Sleeper}
    (hs : s ∈ Clockwork.aborted inTime d.timer tasks) : s.generation ≤ d.generation :=
  h.le s (List.mem_filter.mp hs).1

lemma Tasked.Holds.emptied (h : d.Holds tasks p) :
    d.emptied.Holds (Clockwork.aborted inTime d.timer tasks) none where
  pending := rfl
  le s hs := Nat.le_succ_of_le (h.le_of_mem_aborted hs)
  sleeps _ _ hp := by cases hp
  due _ _ hp := by cases hp

lemma Tasked.Holds.called (h : d.Holds tasks p) (a : α) (due : Nat) :
    (d.called a).Holds (Clockwork.aborted inTime d.timer tasks ++ [⟨due, d.generation + 1⟩])
      (some (a, due)) where
  pending := rfl
  le s hs := by
    obtain hs | hs := List.mem_append.mp hs
    · exact Nat.le_succ_of_le (h.le_of_mem_aborted hs)
    · rw [List.mem_singleton.mp hs]
      exact Nat.le_refl _
  sleeps _ _ hp := by
    cases hp
    exact List.mem_append_right _ (List.mem_singleton_self _)
  due _ _ hp s hs hgeneration := by
    cases hp
    obtain hs | hs := List.mem_append.mp hs
    · exact absurd hgeneration (Nat.ne_of_lt (Nat.lt_succ_of_le (h.le_of_mem_aborted hs)))
    · rw [List.mem_singleton.mp hs]

/-- Once something has fired or was never pending, nothing is waiting. -/
lemma Tasked.Holds.of_wakeAll (h : d.Holds tasks p) {woken later : List Sleeper}
    (hlater : later ⊆ tasks) (hpending : (d.wakeAll woken).2.pending = none) :
    (d.wakeAll woken).2.Holds later none where
  pending := hpending
  le s hs := by
    rw [generation_wakeAll]
    exact h.le s (hlater hs)
  sleeps _ _ hp := by cases hp
  due _ _ hp := by cases hp

open Clockwork

lemma settle_none (h : d.Holds tasks none) (time : Nat) :
    (settle ⟨time, some d, tasks⟩).1 = []
      ∧ Matches (settle ⟨time, some d, tasks⟩).2 (holding time d.window none) := by
  obtain ⟨hfired, hpending⟩ := wakeAll_of_none h.pending (tasks.filter fun s => s.due ≤ time)
  refine ⟨hfired, ?_⟩
  have hholds := h.of_wakeAll (List.filter_sublist (p := fun s => time < s.due)).subset hpending
  exact window_wakeAll _ d ▸ .held time hholds

lemma settle_due (h : d.Holds tasks (some (a, due))) (hdue : due ≤ time) :
    (settle ⟨time, some d, tasks⟩).1 = [(due, a)]
      ∧ Matches (settle ⟨time, some d, tasks⟩).2 (holding time d.window none) := by
  have hmem : ⟨due, d.generation⟩ ∈ tasks.filter fun s => s.due ≤ time :=
    List.mem_filter.mpr ⟨h.sleeps a due rfl, decide_eq_true hdue⟩
  obtain ⟨hfired, hpending⟩ := wakeAll_of_mem h.pending hmem
    fun s hs => h.due a due rfl s (List.mem_filter.mp hs).1
  refine ⟨hfired, ?_⟩
  have hholds := h.of_wakeAll (List.filter_sublist (p := fun s => time < s.due)).subset hpending
  exact window_wakeAll _ d ▸ .held time hholds

lemma settle_later (h : d.Holds tasks (some (a, due))) (hdue : time < due) :
    (settle ⟨time, some d, tasks⟩).1 = []
      ∧ Matches (settle ⟨time, some d, tasks⟩).2 (holding time d.window (some (a, due))) := by
  have hwoken : d.wakeAll (tasks.filter fun s => s.due ≤ time) = ([], d) := by
    refine wakeAll_of_ne fun s hs hgeneration => ?_
    obtain ⟨hs, hle⟩ := List.mem_filter.mp hs
    rw [h.due a due rfl s hs hgeneration] at hle
    exact Nat.not_le.mpr hdue (of_decide_eq_true hle)
  have hsettle : settle ⟨time, some d, tasks⟩
      = ([], ⟨time, some d, tasks.filter fun s => time < s.due⟩) := by
    simp only [settle, hwoken]
  rw [hsettle]
  refine ⟨rfl, .held time ⟨h.pending, fun s hs => h.le s (List.mem_filter.mp hs).1, ?_, ?_⟩⟩
  · rintro _ _ ⟨⟩
    exact List.mem_filter.mpr ⟨h.sleeps a due rfl, decide_eq_true hdue⟩
  · rintro _ _ ⟨⟩ s hs
    exact h.due a due rfl s (List.mem_filter.mp hs).1

/-- A step of the tasks fires what a step on the agenda fires. -/
theorem matches_run {c : Clockwork α} {agenda : Agenda α} (h : c.Matches agenda) (s : Step α) :
    (c.run inTime s).1 = (s.run agenda).1.map (fun f => (f.time, f.arg))
      ∧ (c.run inTime s).2.Matches (s.run agenda).2 := by
  cases h with
  | dropped time tasks => cases s <;> exact ⟨rfl, .dropped _ _⟩
  | @held d tasks p time h =>
    cases s with
    | call a =>
      have hcalled : (d.called a).Holds (aborted inTime d.timer tasks
          ++ [⟨time + d.window, d.generation + 1⟩]) (some (a, time + d.window)) := h.called a _
      rw [run_call]
      split
      · next hw =>
        obtain ⟨hfired, hmatches⟩ := settle_due hcalled (Nat.le_of_eq (by rw [hw, Nat.add_zero]))
        have htime : time + d.window = time := by rw [hw, Nat.add_zero]
        exact ⟨hfired.trans (by rw [htime]; rfl), hmatches⟩
      · next hw => exact settle_later hcalled (Nat.lt_add_of_pos_right (Nat.pos_of_ne_zero hw))
    | flush =>
      obtain ⟨hfired, hmatches⟩ := settle_none h.emptied time
      rw [run_flush]
      refine ⟨?_, hmatches⟩
      have hrun : (Clockwork.run inTime .flush ⟨time, some d, tasks⟩).1
          = (d.pending.map fun a => (time, a)).toList
            ++ (settle ⟨time, some d.emptied, aborted inTime d.timer tasks⟩).1 := rfl
      rw [hrun, hfired, List.append_nil, h.pending]
      cases p <;> rfl
    | cancel => exact settle_none h.emptied time
    | drop => exact ⟨rfl, .dropped _ _⟩
    | advance span =>
      cases p with
      | none => exact settle_none h (time + span)
      | some x =>
        obtain ⟨a, due⟩ := x
        rw [run_advance_some]
        split
        · next hdue => exact settle_due h hdue
        · next hdue => exact settle_later h (Nat.not_le.mp hdue)

theorem matches_after (inTime : Nat → Bool) (w : Nat) (steps : List (Step α)) :
    (Clockwork.after inTime w steps).Matches (Debounce.after w steps) := by
  induction steps using List.reverseRecOn with
  | nil =>
    have hholds : Tasked.Holds ({ window := w } : Tasked α) [] none :=
      ⟨rfl, List.forall_mem_nil _, fun _ _ h => (nomatch h), fun _ _ h => (nomatch h)⟩
    exact .held 0 hholds
  | append_singleton steps s ih =>
    rw [Clockwork.after, Debounce.after, List.foldl_append, List.foldl_append]
    exact (matches_run ih s).2

lemma clockwork_fired (inTime : Nat → Bool) (w : Nat) :
    Clockwork.fired inTime w = Debounce.fired (α := α) w := by
  funext before s
  exact (matches_run (matches_after inTime w before) s).1

lemma isSome_pending (inTime : Nat → Bool) (w : Nat) (steps : List (Step α)) :
    (Clockwork.pending? inTime w steps).isSome = waits w steps := by
  have h := matches_after inTime w steps
  rw [pending?, waits, wrapper?]
  generalize Clockwork.after inTime w steps = c at h
  generalize Debounce.after w steps = agenda at h
  cases h with
  | dropped => rfl
  | @held d _ p _ h =>
    change d.pending.isSome = p.isSome
    rw [h.pending, Option.isSome_map]

/-- The law of firings, for a wrapper on an agenda, and for one whose tasks are
aborted, whichever of them are not aborted in time. -/
theorem fires_exactly (α : Type) (w : Nat) :
    Exact w (Debounce.fired (α := α) w) (flushes w) (waits w)
      ∧ ∀ inTime, Exact w (Clockwork.fired (α := α) inTime w)
        (fun steps => (pending? inTime w steps).isSome)
        (fun steps => (pending? inTime w steps).isSome) := by
  refine ⟨exact_fired w, fun inTime => ?_⟩
  have hpending : (fun steps : List (Step α) => (pending? inTime w steps).isSome) = waits w :=
    funext (isSome_pending inTime w)
  have hflushes : waits (α := α) w = flushes w := funext fun steps => (flushes_eq_waits w steps).symm
  rw [clockwork_fired, hpending]
  nth_rewrite 1 [hflushes]
  exact exact_fired w

end Steps

end MockupStudio.Debounce
