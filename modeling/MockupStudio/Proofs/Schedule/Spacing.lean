/-
How rebounced calls are spaced.

* `Rebounce.Spaced`: the law of firings, of anything that fires step by step;
* `Rebounce.fired`: what a step fires on an agenda with one wrapper, where
  timers run as soon as they are due;
* `Rebounce.Phase`: the wrapper is dropped, idle, or a window runs;
  `Rebounce.Moves`: what a step can do to it;
* `Rebounce.moves_run`: a step on the agenda is such a move, and
  `Rebounce.exists_stands`: so after any steps there is a phase;
* `Rebounce.spaced_fired`: the law holds of that agenda.
-/
import MockupStudio.Proofs.Schedule.Pauses

namespace MockupStudio.Rebounce

open Debounce (Step Fires elapsed calls elapsed_append elapsed_concat during_concat)

variable {α : Type}

/-! ### The law -/

/-- Some steps cancel or drop the wrapper before anything fires. -/
def Lapses (fired : Fires α) (before steps : List (Step α)) : Prop :=
  ∃ quiet s rest, steps = quiet ++ s :: rest ∧ (s = .cancel ∨ s = .drop)
    ∧ fired.during before quiet = []

/-- The law of a wrapper with window `w`; `isIdle` says whether there is a
wrapper whose window does not run, `isPending` whether an argument is
waiting. -/
structure Spaced (w : Nat) (fired : Fires α) (isIdle isPending : List (Step α) → Bool) : Prop where
  /-- At first the wrapper is idle. -/
  begins : isIdle [] = true
  /-- A call while idle fires at once. -/
  leading : ∀ before a, isIdle before = true → fired before (.call a) = [(elapsed before, a)]
  /-- What a step fires, it fires while it takes place. -/
  timely : ∀ before s t a, (t, a) ∈ fired before s →
    elapsed before ≤ t ∧ t ≤ elapsed (before ++ [s])
  /-- Each call fires at most once, and in the order of the calls. -/
  once : ∀ steps, ((fired.during [] steps).map (·.2)).Sublist (calls steps)
  /-- From a call on, it or later ones fire. -/
  newest : ∀ before a later,
    ((fired.during before (.call a :: later)).map (·.2)).Sublist (a :: calls later)
  /-- Unless a call is forgotten first, something fires within a window from
  it. -/
  answered : ∀ before a later, .drop ∉ before → ¬ Lapses fired before (.call a :: later) →
    w ≤ elapsed later → ∃ x ∈ fired.during before (.call a :: later),
      elapsed before ≤ x.1 ∧ x.1 ≤ elapsed before + w
  /-- After the last call of a burst it fires, and nothing else. -/
  burst : ∀ before a later, .drop ∉ before →
    (∀ s ∈ later, s = .flush ∨ ∃ span, s = .advance span) → w ≤ elapsed later →
      ∃ t, elapsed before ≤ t ∧ t ≤ elapsed before + w
        ∧ fired.during before (.call a :: later) = [(t, a)]
  /-- Without a flush or a cancel, firings are at least a window apart. -/
  apart : ∀ before later, .flush ∉ later → .cancel ∉ later →
    (fired.during before later).Pairwise fun x y => x.1 + w ≤ y.1
  /-- Without a call, the wrapper is idle a window after a firing. -/
  rests : ∀ before s later t a, (t, a) ∈ fired before s → calls later = [] → .drop ∉ later →
    t + w ≤ elapsed (before ++ s :: later) → isIdle (before ++ s :: later) = true
  /-- Nothing is waiting while the wrapper is idle. -/
  resting : ∀ steps, isIdle steps = true → isPending steps = false
  /-- After a cancel or a drop, only later calls fire. -/
  forgets : ∀ before s later, s = .cancel ∨ s = .drop →
    ((fired.during (before ++ [s]) later).map (·.2)).Sublist (calls later)
  /-- Nothing fires once the wrapper is dropped. -/
  dropped : ∀ before later, .drop ∈ before → fired.during before later = []

/-! ### One wrapper on an agenda -/

/-- An agenda with one wrapper. -/
def alone (w : Nat) : Agenda α := { timers := [some (.rebounce { window := w })] }

/-- What some steps leave of the agenda. -/
def after (w : Nat) (steps : List (Step α)) : Agenda α :=
  steps.foldl (fun agenda s => (s.run agenda).2) (alone w)

/-- What a step fires. -/
def fired (w : Nat) : Fires α := fun before s =>
  (s.run (after w before)).1.map fun f => (f.time, f.arg)

/-- The wrapper, if it has not been dropped. -/
def wrapper? (w : Nat) (steps : List (Step α)) : Option (Rebounce α) :=
  match (after w steps).timer? 0 with
  | some (.rebounce r) => some r
  | _ => none

/-- Whether there is a wrapper whose window does not run. -/
def isIdle (w : Nat) (steps : List (Step α)) : Bool :=
  (wrapper? w steps).any fun r => !r.isCooling

/-- Whether an argument is waiting. -/
def waits (w : Nat) (steps : List (Step α)) : Bool :=
  (wrapper? w steps).any Rebounce.isPending

/-! ### Phases -/

/-- Where a wrapper can be once the timers that are due have run. -/
inductive Phase (α : Type) where
  | dropped
  | idle
  /-- A window runs, and an argument may wait for its end. -/
  | cooling (due : Nat) (waiting : Option α)

namespace Phase

/-- The argument that waits. -/
def waiting : Phase α → Option α
  | cooling _ waiting => waiting
  | _ => none

/-- The agenda in a phase. -/
def agenda (w now : Nat) : Phase α → Agenda α
  | dropped => ⟨now, [none]⟩
  | idle => ⟨now, [some (.rebounce ⟨w, none, none⟩)]⟩
  | cooling due waiting => ⟨now, [some (.rebounce ⟨w, waiting, some due⟩)]⟩

/-- A window that runs ends later, but not by more than its length. -/
def Fits (w now : Nat) : Phase α → Prop
  | cooling due _ => now < due ∧ due ≤ now + w
  | _ => True

end Phase

/-- What a step can do to a wrapper at a time: what fires, and the phase that
follows. -/
inductive Moves (w now : Nat) : Phase α → Step α → List (Nat × α) → Phase α → Prop where
  | gone (s : Step α) : Moves w now .dropped s [] .dropped
  | drop (phase : Phase α) : Moves w now phase .drop [] .dropped
  | idles (s : Step α) : s = .flush ∨ s = .cancel ∨ (∃ span, s = .advance span) →
      Moves w now .idle s [] .idle
  /-- Without a window to wait for, a call leaves the wrapper idle. -/
  | leads (a : α) : w = 0 → Moves w now .idle (.call a) [(now, a)] .idle
  | starts (a : α) : 0 < w → Moves w now .idle (.call a) [(now, a)] (.cooling (now + w) none)
  | keeps (due : Nat) (p : Option α) (a : α) :
      Moves w now (.cooling due p) (.call a) [] (.cooling due (some a))
  | flush (due : Nat) (p : Option α) :
      Moves w now (.cooling due p) .flush (p.map fun a => (now, a)).toList (.cooling due none)
  | cancel (due : Nat) (p : Option α) : Moves w now (.cooling due p) .cancel [] .idle
  | lasts (due : Nat) (p : Option α) (span : Nat) : now + span < due →
      Moves w now (.cooling due p) (.advance span) [] (.cooling due p)
  | ends (due span : Nat) : due ≤ now + span →
      Moves w now (.cooling due none) (.advance span) [] .idle
  /-- The argument that waits fires, and the next window runs on. -/
  | trails (due span : Nat) (a : α) : due ≤ now + span → now + span < due + w →
      Moves w now (.cooling due (some a)) (.advance span) [(due, a)] (.cooling (due + w) none)
  /-- The argument that waits fires, and the next window ends as well. -/
  | settles (due span : Nat) (a : α) : due + w ≤ now + span →
      Moves w now (.cooling due (some a)) (.advance span) [(due, a)] .idle

section Runs

variable {w now due span : Nat} {phase next : Phase α} {s : Step α} {p : Option α} {a : α}

lemma settle_agenda (h : phase.Fits w now) : (phase.agenda w now).settle
    = ([], phase.agenda w now) := by
  cases phase with
  | cooling due p => cases p <;> exact if_neg (Nat.not_le.mpr h.1)
  | _ => rfl

/-- A step whose own part leads to a phase is over, as nothing is due then. -/
lemma run_of_act {fs : List (Firing α)} (hfits : next.Fits w (now + s.span))
    (h : s.act (phase.agenda w now) = (fs, next.agenda w (now + s.span))) :
    s.run (phase.agenda w now) = (fs, next.agenda w (now + s.span)) := by
  rw [Step.run, h, settle_agenda hfits, List.append_nil]

/-- Without a window to wait for, the one that a call starts ends at once. -/
lemma run_call_idle (a : α) : (Step.call a).run (Phase.idle.agenda 0 now)
    = ([⟨0, now, a⟩], Phase.idle.agenda 0 now) := by
  have hsettle : (Phase.agenda 0 now (.cooling now none) : Agenda α).settle
      = if now ≤ now then ([], Phase.idle.agenda 0 now)
        else ([], Phase.agenda 0 now (.cooling now none)) := rfl
  have hrun : (Step.call a).run (Phase.idle.agenda 0 now)
      = ([⟨0, now, a⟩] ++ (Phase.agenda 0 now (.cooling now none)).settle.1,
        (Phase.agenda 0 now (.cooling now none)).settle.2) := rfl
  rw [hrun, hsettle, if_pos (Nat.le_refl _)]
  rfl

/-- A window at whose end nothing is waiting. -/
lemma runUntil_none (w now due span : Nat) :
    (Phase.agenda w now (.cooling due (none : Option α))).runUntil (now + span) 1
    = if due ≤ now + span then ([], Phase.idle.agenda w now)
      else ([], Phase.agenda w now (.cooling due none)) := rfl

/-- A window at whose end an argument is waiting, and the next one. -/
lemma runUntil_some (w now due span : Nat) (a : α) :
    (Phase.agenda w now (.cooling due (some a))).runUntil (now + span) 2
    = if due ≤ now + span then
        if due + w ≤ now + span then ([⟨0, due, a⟩], Phase.idle.agenda w now)
        else ([⟨0, due, a⟩], Phase.agenda w now (.cooling (due + w) none))
      else ([], Phase.agenda w now (.cooling due (some a))) := by
  have hfirst : (Phase.agenda w now (.cooling due (some a))).runUntil (now + span) 2
      = if due ≤ now + span then
          ([⟨0, due, a⟩] ++ ((Phase.agenda w now (.cooling (due + w) none)).runUntil
              (now + span) 1).1,
            ((Phase.agenda w now (.cooling (due + w) none)).runUntil (now + span) 1).2)
        else ([], Phase.agenda w now (.cooling due (some a))) := rfl
  rw [hfirst, runUntil_none]
  split
  · split <;> rfl
  · rfl

/-- Time passes: what fires, fires on the way. -/
lemma act_advance {fs : List (Firing α)}
    (h : (phase.agenda w now).runUntil (now + span) (phase.agenda w now).weight
      = (fs, next.agenda w now)) :
    (Step.advance span).act (phase.agenda w now) = (fs, next.agenda w (now + span)) := by
  have hnow : (phase.agenda w now).now = now := by cases phase <;> rfl
  have hact : (Step.advance span).act (phase.agenda w now)
      = (((phase.agenda w now).runUntil ((phase.agenda w now).now + span)
          (phase.agenda w now).weight).1,
        { ((phase.agenda w now).runUntil ((phase.agenda w now).now + span)
          (phase.agenda w now).weight).2 with now := (phase.agenda w now).now + span }) := rfl
  rw [hact, hnow, h]
  cases next <;> rfl

/-- A step on the agenda. -/
structure Ran (w now : Nat) (phase : Phase α) (s : Step α) (fs : List (Firing α))
    (next : Phase α) : Prop where
  run : s.run (phase.agenda w now) = (fs, next.agenda w (now + s.span))
  fits : next.Fits w (now + s.span)
  moves : Moves w now phase s (fs.map fun f => (f.time, f.arg)) next

/-- A window that has not ended runs on. -/
lemma Phase.Fits.later (h : (Phase.cooling due p).Fits w now) (hlater : now + span < due) :
    (Phase.cooling due p).Fits w (now + span) := by
  have hle : due ≤ now + w := h.2
  exact ⟨hlater, by omega⟩

lemma ran_advance_none (h : (Phase.cooling due (none : Option α)).Fits w now) (span : Nat) :
    ∃ (fs : List (Firing α)) (next : Phase α),
      Ran w now (.cooling due none) (.advance span) fs next := by
  have hpassed := runUntil_none (α := α) w now due span
  by_cases hdue : due ≤ now + span
  · rw [if_pos hdue] at hpassed
    exact ⟨[], .idle, run_of_act trivial (act_advance hpassed), trivial, .ends due span hdue⟩
  · rw [if_neg hdue] at hpassed
    have hlater : now + span < due := Nat.not_le.mp hdue
    have hfits := h.later hlater
    exact ⟨[], .cooling due none, run_of_act hfits (act_advance hpassed), hfits,
      .lasts due none span hlater⟩

lemma ran_advance_some (h : (Phase.cooling due (some a)).Fits w now) (span : Nat) :
    ∃ fs next, Ran w now (.cooling due (some a)) (.advance span) fs next := by
  have hpassed := runUntil_some w now due span a
  by_cases hdue : due ≤ now + span
  · rw [if_pos hdue] at hpassed
    by_cases hnext : due + w ≤ now + span
    · rw [if_pos hnext] at hpassed
      exact ⟨[⟨0, due, a⟩], .idle, run_of_act trivial (act_advance hpassed), trivial,
        .settles due span a hnext⟩
    · rw [if_neg hnext] at hpassed
      have hlater : now + span < due + w := Nat.not_le.mp hnext
      have hfits : (Phase.cooling (due + w) (none : Option α)).Fits w (now + span) :=
        ⟨hlater, Nat.add_le_add_right hdue w⟩
      exact ⟨[⟨0, due, a⟩], .cooling (due + w) none, run_of_act hfits (act_advance hpassed), hfits,
        .trails due span a hdue hlater⟩
  · rw [if_neg hdue] at hpassed
    have hlater : now + span < due := Nat.not_le.mp hdue
    have hfits := h.later hlater
    exact ⟨[], .cooling due (some a), run_of_act hfits (act_advance hpassed), hfits,
      .lasts due (some a) span hlater⟩

/-- A step in a phase is one of the moves. -/
theorem moves_run (h : phase.Fits w now) (s : Step α) : ∃ fs next, Ran w now phase s fs next := by
  cases phase with
  | dropped =>
    have hact : s.act (Phase.dropped.agenda w now)
        = ([], Phase.dropped.agenda w (now + s.span)) := by
      cases s <;> rfl
    exact ⟨[], .dropped, run_of_act trivial hact, trivial, .gone s⟩
  | idle =>
    cases s with
    | call a =>
      by_cases hw : w = 0
      · subst hw
        exact ⟨_, .idle, run_call_idle a, trivial, .leads a rfl⟩
      · have hpos := Nat.pos_of_ne_zero hw
        have hfits : (Phase.cooling (now + w) (none : Option α)).Fits w now :=
          ⟨Nat.lt_add_of_pos_right hpos, Nat.le_refl _⟩
        exact ⟨[⟨0, now, a⟩], _, run_of_act hfits rfl, hfits, .starts a hpos⟩
    | flush => exact ⟨[], .idle, run_of_act trivial rfl, trivial, .idles _ (.inl rfl)⟩
    | cancel => exact ⟨[], .idle, run_of_act trivial rfl, trivial, .idles _ (.inr (.inl rfl))⟩
    | drop => exact ⟨[], .dropped, run_of_act trivial rfl, trivial, .drop _⟩
    | advance span =>
      exact ⟨[], .idle, run_of_act trivial rfl, trivial, .idles _ (.inr (.inr ⟨span, rfl⟩))⟩
  | cooling due p =>
    cases s with
    | call a =>
      have hfits : (Phase.cooling due (some a)).Fits w now := h
      exact ⟨[], _, run_of_act hfits rfl, hfits, .keeps due p a⟩
    | flush =>
      have hfits : (Phase.cooling due (none : Option α)).Fits w now := h
      cases p with
      | none => exact ⟨[], _, run_of_act hfits rfl, hfits, .flush due none⟩
      | some a => exact ⟨[⟨0, now, a⟩], _, run_of_act hfits rfl, hfits, .flush due (some a)⟩
    | cancel => exact ⟨[], .idle, run_of_act trivial rfl, trivial, .cancel due p⟩
    | drop => exact ⟨[], .dropped, run_of_act trivial rfl, trivial, .drop _⟩
    | advance span =>
      cases p with
      | none => exact ran_advance_none h span
      | some a => exact ran_advance_some h span

end Runs

/-! ### After some steps -/

/-- The wrapper is in a phase after some steps. -/
structure Stands (w : Nat) (steps : List (Step α)) (phase : Phase α) : Prop where
  after_eq : after w steps = phase.agenda w (elapsed steps)
  fits : phase.Fits w (elapsed steps)
  dropped_iff : phase = .dropped ↔ .drop ∈ steps

section Standing

variable {w : Nat} {before steps : List (Step α)} {phase : Phase α}

/-- The wrapper is dropped by nothing but a drop. -/
lemma Moves.dropped_iff {now : Nat} {fs : List (Nat × α)} {s : Step α} {next : Phase α}
    (h : Moves w now phase s fs next) : next = .dropped ↔ phase = .dropped ∨ s = .drop := by
  cases h with
  | idles s hs => obtain rfl | rfl | ⟨_, rfl⟩ := hs <;> simp
  | _ => simp

lemma stands_nil (w : Nat) : Stands (α := α) w [] .idle := ⟨rfl, trivial, by simp⟩

/-- From a phase a step makes a move to the next one. -/
lemma Stands.step (h : Stands w before phase) (s : Step α) : ∃ next,
    Moves w (elapsed before) phase s (fired w before s) next ∧ Stands w (before ++ [s]) next := by
  obtain ⟨fs, next, hrun, hfits, hmoves⟩ := moves_run h.fits s
  have hfired : fired w before s = fs.map fun f => (f.time, f.arg) := by
    rw [fired, h.after_eq, hrun]
  have hafter : after w (before ++ [s]) = (s.run (after w before)).2 := List.foldl_append
  refine ⟨next, hfired ▸ hmoves, ?_, ?_, ?_⟩
  · rw [hafter, h.after_eq, hrun, elapsed_concat]
  · rw [elapsed_concat]
    exact hfits
  · rw [hmoves.dropped_iff, h.dropped_iff, List.mem_append, List.mem_singleton, eq_comm (a := s)]

theorem exists_stands (w : Nat) (steps : List (Step α)) : ∃ phase, Stands w steps phase := by
  induction steps using List.reverseRecOn with
  | nil => exact ⟨.idle, stands_nil w⟩
  | append_singleton steps s ih =>
    obtain ⟨phase, h⟩ := ih
    obtain ⟨next, -, hnext⟩ := h.step s
    exact ⟨next, hnext⟩

lemma Stands.isIdle_iff (h : Stands w steps phase) : isIdle w steps = true ↔ phase = .idle := by
  rw [isIdle, wrapper?, h.after_eq]
  cases phase <;> simp [Phase.agenda, Agenda.timer?, isCooling]

lemma Stands.waits_eq (h : Stands w steps phase) : waits w steps = phase.waiting.isSome := by
  rw [waits, wrapper?, h.after_eq]
  cases phase <;> rfl

end Standing

/-! ### Firings -/

section Firings

variable {w now t : Nat} {before later : List (Step α)} {phase next : Phase α} {s : Step α} {a : α}
  {fs : List (Nat × α)} {x : Nat × α}

lemma calls_cons (s : Step α) (later : List (Step α)) :
    calls (s :: later) = s.arg?.toList ++ calls later := by
  cases s <;> rfl

lemma during_cons (fired : Fires α) (before : List (Step α)) (s : Step α) (later : List (Step α)) :
    fired.during before (s :: later) = fired before s ++ fired.during (before ++ [s]) later := rfl

/-! ### Whose arguments fire -/

/-- What fires, and what then waits, has waited before or is called. -/
lemma Moves.sublist (h : Moves w now phase s fs next) :
    (fs.map (·.2) ++ next.waiting.toList).Sublist (phase.waiting.toList ++ s.arg?.toList) := by
  cases h with
  | keeps due p a => exact List.sublist_append_right _ _
  | flush due p => cases p <;> simp [Phase.waiting]
  | _ => simp [Phase.waiting, Step.arg?]

/-- A call puts its argument in the place of one that waits. -/
lemma Moves.sublist_call (h : Moves w now phase (.call a) fs next) :
    (fs.map (·.2) ++ next.waiting.toList).Sublist [a] := by
  cases h with
  | idles _ hs => simp at hs
  | _ => simp [Phase.waiting]

/-- What fires has waited, or is called, in this order. -/
lemma Stands.sublist_during (h : Stands w before phase) (later : List (Step α)) :
    (((fired w).during before later).map (·.2)).Sublist
      (phase.waiting.toList ++ calls later) := by
  induction later generalizing before phase with
  | nil => exact List.nil_sublist _
  | cons s later ih =>
    obtain ⟨next, hmoves, hnext⟩ := h.step s
    rw [during_cons, List.map_append, calls_cons, ← List.append_assoc]
    refine ((ih hnext).append_left _).trans ?_
    rw [← List.append_assoc]
    exact hmoves.sublist.append_right _

/-- Nothing that waited before a step fires after it, if nothing of it waits
then. -/
lemma sublist_calls_of_forgets (hs : s = .cancel ∨ s = .drop) :
    (((fired w).during (before ++ [s]) later).map (·.2)).Sublist (calls later) := by
  obtain ⟨phase, h⟩ := exists_stands w before
  obtain ⟨next, hmoves, hnext⟩ := h.step s
  have hwaiting : next.waiting = none := by
    generalize fired w before s = fs at hmoves
    obtain rfl | rfl := hs <;> cases hmoves <;> rfl
  have hsublist := hnext.sublist_during later
  rw [hwaiting] at hsublist
  exact hsublist

/-- From a call on, it or later ones fire. -/
lemma sublist_calls_of_call (w : Nat) (before : List (Step α)) (a : α) (later : List (Step α)) :
    (((fired w).during before (.call a :: later)).map (·.2)).Sublist (a :: calls later) := by
  obtain ⟨phase, h⟩ := exists_stands w before
  obtain ⟨next, hmoves, hnext⟩ := h.step (.call a)
  rw [during_cons, List.map_append]
  refine ((hnext.sublist_during later).append_left _).trans ?_
  rw [← List.append_assoc]
  exact hmoves.sublist_call.append_right (calls later)

/-- Nothing fires once the wrapper is dropped. -/
lemma during_of_dropped (h : Stands w before .dropped) (later : List (Step α)) :
    (fired w).during before later = [] := by
  induction later generalizing before with
  | nil => rfl
  | cons s later ih =>
    obtain ⟨next, hmoves, hnext⟩ := h.step s
    have hstill : fired w before s = [] ∧ next = .dropped := by
      generalize fired w before s = fs at hmoves
      cases hmoves <;> exact ⟨rfl, rfl⟩
    rw [during_cons, hstill.1, ih (hstill.2 ▸ hnext)]
    rfl

/-! ### When they fire -/

lemma Moves.length_le (h : Moves w now phase s fs next) : fs.length ≤ 1 := by
  cases h with
  | flush due p => cases p <;> simp
  | _ => simp

/-- What a step fires, it fires while it takes place. -/
lemma Moves.timely (h : Moves w now phase s fs next) (hfits : phase.Fits w now) (hx : x ∈ fs) :
    now ≤ x.1 ∧ x.1 ≤ now + s.span := by
  cases h with
  | leads | starts =>
    rw [List.mem_singleton.mp hx]
    exact ⟨Nat.le_refl _, Nat.le_refl _⟩
  | flush due p =>
    obtain ⟨a, -, rfl⟩ := Option.map_eq_some_iff.mp (Option.mem_toList.mp hx)
    exact ⟨Nat.le_refl _, Nat.le_refl _⟩
  | trails due span a hdue =>
    rw [List.mem_singleton.mp hx]
    exact ⟨Nat.le_of_lt hfits.1, hdue⟩
  | settles due span a hdue =>
    rw [List.mem_singleton.mp hx]
    exact ⟨Nat.le_of_lt hfits.1, Nat.le_of_add_right_le hdue⟩
  | _ => cases hx

lemma timely_fired (hx : x ∈ fired w before s) :
    elapsed before ≤ x.1 ∧ x.1 ≤ elapsed (before ++ [s]) := by
  obtain ⟨phase, h⟩ := exists_stands w before
  obtain ⟨next, hmoves, -⟩ := h.step s
  rw [elapsed_concat]
  exact hmoves.timely h.fits hx

lemma le_of_mem_during (hx : x ∈ (fired w).during before later) : elapsed before ≤ x.1 := by
  induction later generalizing before with
  | nil => cases hx
  | cons s later ih =>
    rw [during_cons, List.mem_append] at hx
    obtain hx | hx := hx
    · exact (timely_fired hx).1
    · have hle := ih hx
      rw [elapsed_concat] at hle
      exact Nat.le_of_add_right_le hle

/-! ### No call is left unanswered -/

lemma Lapses.cons (h : Lapses (fired w) (before ++ [s]) later) (hs : fired w before s = []) :
    Lapses (fired w) before (s :: later) := by
  obtain ⟨quiet, r, rest, rfl, hr, hquiet⟩ := h
  exact ⟨s :: quiet, r, rest, rfl, hr, by rw [during_cons, hs, hquiet]; rfl⟩

/-- An argument that waits, or one that has taken its place, fires by the end of
the window. -/
lemma Stands.answered {due : Nat} (h : Stands w before (.cooling due (some a)))
    (later : List (Step α)) :
    Lapses (fired w) before later ∨ elapsed (before ++ later) < due
      ∨ ∃ x ∈ (fired w).during before later, x.1 ≤ due := by
  induction later generalizing before a with
  | nil => exact .inr (.inl (by rw [List.append_nil]; exact h.fits.1))
  | cons s later ih =>
    obtain ⟨next, hmoves, hnext⟩ := h.step s
    have hfirst (hx : (due, a) ∈ fired w before s) :
        ∃ x ∈ (fired w).during before (s :: later), x.1 ≤ due :=
      ⟨_, List.mem_append_left _ hx, Nat.le_refl _⟩
    have hrest {b : α} (hs : fired w before s = [])
        (hnext : Stands w (before ++ [s]) (.cooling due (some b))) :
        Lapses (fired w) before (s :: later) ∨ elapsed (before ++ s :: later) < due
          ∨ ∃ x ∈ (fired w).during before (s :: later), x.1 ≤ due := by
      obtain hlapses | hshort | ⟨x, hx, hle⟩ := ih hnext
      · exact .inl (hlapses.cons hs)
      · rw [List.append_assoc] at hshort
        exact .inr (.inl hshort)
      · exact .inr (.inr ⟨x, List.mem_append_right _ hx, hle⟩)
    generalize hfs : fired w before s = fs at hmoves
    cases hmoves with
    | drop => exact .inl ⟨[], .drop, later, rfl, .inr rfl, rfl⟩
    | cancel => exact .inl ⟨[], .cancel, later, rfl, .inl rfl, rfl⟩
    | keeps | lasts => exact hrest hfs hnext
    | flush =>
      have hx : (elapsed before, a) ∈ fired w before .flush := by
        rw [hfs]
        exact List.mem_singleton_self _
      exact .inr (.inr ⟨_, List.mem_append_left _ hx, Nat.le_of_lt h.fits.1⟩)
    | trails | settles => exact .inr (.inr (hfirst (hfs ▸ List.mem_singleton_self _)))

/-- Unless a call is forgotten first, something fires within a window from
it. -/
lemma answered_call (hdrop : .drop ∉ before)
    (hlapses : ¬ Lapses (fired w) before (.call a :: later)) (hlong : w ≤ elapsed later) :
    ∃ x ∈ (fired w).during before (.call a :: later),
      elapsed before ≤ x.1 ∧ x.1 ≤ elapsed before + w := by
  obtain ⟨phase, h⟩ := exists_stands w before
  obtain ⟨next, hmoves, hnext⟩ := h.step (.call a)
  have hphase : phase ≠ .dropped := fun hphase => hdrop (h.dropped_iff.mp hphase)
  have hlead (hx : (elapsed before, a) ∈ fired w before (.call a)) :
      ∃ x ∈ (fired w).during before (.call a :: later),
        elapsed before ≤ x.1 ∧ x.1 ≤ elapsed before + w :=
    ⟨_, List.mem_append_left _ hx, Nat.le_refl _, Nat.le_add_right _ _⟩
  generalize hfs : fired w before (.call a) = fs at hmoves
  cases hmoves with
  | gone => exact absurd rfl hphase
  | idles _ hs => simp at hs
  | leads | starts => exact hlead (hfs ▸ List.mem_singleton_self _)
  | keeps due p =>
    have hdue : due ≤ elapsed before + w := h.fits.2
    obtain hlapse | hshort | ⟨x, hx, hle⟩ := hnext.answered later
    · exact absurd (hlapse.cons hfs) hlapses
    · rw [elapsed_append, elapsed_concat] at hshort
      have hspan : (Step.call a).span = 0 := rfl
      omega
    · have hmem : x ∈ (fired w).during before (.call a :: later) := List.mem_append_right _ hx
      exact ⟨x, hmem, le_of_mem_during hmem, Nat.le_trans hle hdue⟩

/-- After the last call of a burst it fires, and nothing else. -/
lemma during_burst (hdrop : .drop ∉ before)
    (hlater : ∀ s ∈ later, s = .flush ∨ ∃ span, s = .advance span) (hlong : w ≤ elapsed later) :
    ∃ t, elapsed before ≤ t ∧ t ≤ elapsed before + w
      ∧ (fired w).during before (.call a :: later) = [(t, a)] := by
  have hlapses : ¬ Lapses (fired w) before (.call a :: later) := by
    rintro ⟨quiet, s, rest, heq, hs, -⟩
    have hmem : s ∈ .call a :: later := heq ▸ List.mem_append_right _ List.mem_cons_self
    obtain rfl | hmem := List.mem_cons.mp hmem
    · simp at hs
    · obtain rfl | ⟨span, rfl⟩ := hlater s hmem <;> simp at hs
  have hcalls : calls later = [] := by
    refine List.filterMap_eq_nil_iff.mpr fun s hs => ?_
    obtain rfl | ⟨span, rfl⟩ := hlater s hs <;> rfl
  obtain ⟨x, hx, hle, hlt⟩ := answered_call hdrop hlapses hlong
  have hsublist := sublist_calls_of_call w before a later
  rw [hcalls] at hsublist
  -- at most one fires, and there is one
  generalize (fired w).during before (.call a :: later) = fs at hx hsublist
  match fs, hx, hsublist with
  | [y], hx, hsublist =>
    obtain rfl := List.mem_singleton.mp hx
    have harg : x.2 = a := List.mem_singleton.mp (hsublist.subset List.mem_cons_self)
    exact ⟨x.1, hle, hlt, by rw [← harg]⟩
  | _ :: _ :: _, _, hsublist => exact absurd hsublist.length_le (by simp)

/-! ### The distance between firings -/

/-- Nothing fires before a time, unless it is flushed or the window is
cancelled. -/
def Phase.Waits (now t : Nat) : Phase α → Prop
  | dropped => True
  | idle => t ≤ now
  | cooling due _ => t ≤ due

lemma Moves.waits (h : Moves w now phase s fs next) (hflush : s ≠ .flush) (hcancel : s ≠ .cancel)
    (ht : phase.Waits now t) : next.Waits (now + s.span) t
      ∧ ∀ x ∈ fs, t ≤ x.1 ∧ next.Waits (now + s.span) (x.1 + w) := by
  cases h with
  | gone | drop => exact ⟨trivial, List.forall_mem_nil _⟩
  | idles => exact ⟨Nat.le_add_right_of_le ht, List.forall_mem_nil _⟩
  | leads a hw =>
    subst hw
    exact ⟨ht, List.forall_mem_singleton.mpr ⟨ht, Nat.le_refl _⟩⟩
  | starts => exact ⟨Nat.le_add_right_of_le ht, List.forall_mem_singleton.mpr ⟨ht, Nat.le_refl _⟩⟩
  | keeps | lasts => exact ⟨ht, List.forall_mem_nil _⟩
  | flush => exact absurd rfl hflush
  | cancel => exact absurd rfl hcancel
  | ends due span hdue => exact ⟨Nat.le_trans ht hdue, List.forall_mem_nil _⟩
  | trails => exact ⟨Nat.le_add_right_of_le ht, List.forall_mem_singleton.mpr ⟨ht, Nat.le_refl _⟩⟩
  | settles due span a hdue =>
    have hle : due ≤ now + span := Nat.le_of_add_right_le hdue
    exact ⟨Nat.le_trans ht hle, List.forall_mem_singleton.mpr ⟨ht, hdue⟩⟩

lemma Stands.le_of_waits (h : Stands w before phase) (hflush : .flush ∉ later)
    (hcancel : .cancel ∉ later) (ht : phase.Waits (elapsed before) t)
    (hx : x ∈ (fired w).during before later) : t ≤ x.1 := by
  induction later generalizing before phase with
  | nil => cases hx
  | cons s later ih =>
    obtain ⟨next, hmoves, hnext⟩ := h.step s
    rw [List.mem_cons, not_or] at hflush hcancel
    obtain ⟨hwaits, hfires⟩ := hmoves.waits (Ne.symm hflush.1) (Ne.symm hcancel.1) ht
    rw [during_cons, List.mem_append] at hx
    obtain hx | hx := hx
    · exact (hfires x hx).1
    · rw [← elapsed_concat] at hwaits
      exact ih hnext hflush.2 hcancel.2 hwaits hx

/-- Without a flush or a cancel, firings are at least a window apart. -/
lemma pairwise_during (hflush : .flush ∉ later) (hcancel : .cancel ∉ later) :
    ((fired w).during before later).Pairwise fun x y => x.1 + w ≤ y.1 := by
  induction later generalizing before with
  | nil => exact .nil
  | cons s later ih =>
    obtain ⟨phase, h⟩ := exists_stands w before
    obtain ⟨next, hmoves, hnext⟩ := h.step s
    rw [List.mem_cons, not_or] at hflush hcancel
    rw [during_cons, List.pairwise_append]
    refine ⟨?_, ih hflush.2 hcancel.2, fun x hx y hy => ?_⟩
    · have hlength := hmoves.length_le
      match fired w before s, hlength with
      | [], _ => exact .nil
      | [x], _ => exact List.pairwise_singleton _ x
    · have hphase : phase.Waits (elapsed before) 0 := by
        cases phase <;> simp [Phase.Waits]
      have hwaits := ((hmoves.waits (Ne.symm hflush.1) (Ne.symm hcancel.1) hphase).2 x hx).2
      rw [← elapsed_concat] at hwaits
      exact hnext.le_of_waits hflush.2 hcancel.2 hwaits hy

/-! ### Rest -/

/-- Nothing is waiting, and no window runs past a time. -/
def Phase.Spent (t : Nat) : Phase α → Prop
  | dropped => False
  | idle => True
  | cooling due waiting => waiting = none ∧ due ≤ t

lemma Moves.spent_of_mem (h : Moves w now phase s fs next) (hfits : phase.Fits w now)
    (hx : x ∈ fs) : next.Spent (x.1 + w) := by
  cases h with
  | leads | settles => exact trivial
  | starts | trails =>
    rw [List.mem_singleton.mp hx]
    exact ⟨rfl, Nat.le_refl _⟩
  | flush due p =>
    obtain ⟨a, -, rfl⟩ := Option.map_eq_some_iff.mp (Option.mem_toList.mp hx)
    exact ⟨rfl, hfits.2⟩
  | _ => cases hx

lemma Moves.spent (h : Moves w now phase s fs next) (hs : s.arg? = none) (hdrop : s ≠ .drop)
    (hspent : phase.Spent t) : next.Spent t := by
  cases h with
  | gone => exact hspent
  | drop => exact absurd rfl hdrop
  | starts | keeps => cases hs
  | flush => exact ⟨rfl, hspent.2⟩
  | lasts => exact hspent
  | trails => cases hspent.1
  | _ => trivial

lemma Stands.spent (h : Stands w before phase) (hcalls : calls later = []) (hdrop : .drop ∉ later)
    (hspent : phase.Spent t) : ∃ next, Stands w (before ++ later) next ∧ next.Spent t := by
  induction later generalizing before phase with
  | nil => exact ⟨phase, by rwa [List.append_nil], hspent⟩
  | cons s later ih =>
    obtain ⟨next, hmoves, hnext⟩ := h.step s
    rw [calls_cons, List.append_eq_nil_iff] at hcalls
    rw [List.mem_cons, not_or] at hdrop
    have hs : s.arg? = none := Option.toList_eq_nil_iff.mp hcalls.1
    have hlast := ih hnext hcalls.2 hdrop.2 (hmoves.spent hs (Ne.symm hdrop.1) hspent)
    rwa [List.append_assoc] at hlast

/-- Without a call, the wrapper is idle a window after a firing. -/
lemma isIdle_of_fired (hx : x ∈ fired w before s) (hcalls : calls later = [])
    (hdrop : .drop ∉ later) (hlong : x.1 + w ≤ elapsed (before ++ s :: later)) :
    isIdle w (before ++ s :: later) = true := by
  obtain ⟨phase, h⟩ := exists_stands w before
  obtain ⟨next, hmoves, hnext⟩ := h.step s
  obtain ⟨last, hlast, hspent⟩ := hnext.spent hcalls hdrop (hmoves.spent_of_mem h.fits hx)
  rw [List.append_assoc] at hlast
  refine hlast.isIdle_iff.mpr ?_
  cases last with
  | idle => rfl
  | dropped => cases hspent
  | cooling due p =>
    have hlt := hlast.fits.1
    have hle := hspent.2
    exact absurd (Nat.lt_of_lt_of_le hlt hle) (Nat.not_lt.mpr hlong)

/-- A call while idle fires at once. -/
lemma fired_call_of_isIdle (h : isIdle w before = true) :
    fired w before (.call a) = [(elapsed before, a)] := by
  obtain ⟨phase, hstands⟩ := exists_stands w before
  obtain rfl := hstands.isIdle_iff.mp h
  obtain ⟨next, hmoves, -⟩ := hstands.step (.call a)
  generalize fired w before (.call a) = fs at hmoves
  cases hmoves with
  | idles _ hs => simp at hs
  | leads | starts => rfl

/-- The law holds of one wrapper on an agenda. -/
theorem spaced_fired (α : Type) (w : Nat) : Spaced w (fired (α := α) w) (isIdle w) (waits w) where
  begins := (stands_nil w).isIdle_iff.mpr rfl
  leading _ _ h := fired_call_of_isIdle h
  timely _ _ _ _ hx := timely_fired hx
  once steps := (stands_nil w).sublist_during steps
  newest := sublist_calls_of_call w
  answered _ _ _ hdrop hlapses hlong := answered_call hdrop hlapses hlong
  burst _ _ _ hdrop hlater hlong := during_burst hdrop hlater hlong
  apart _ _ hflush hcancel := pairwise_during hflush hcancel
  rests _ _ _ _ _ hx hcalls hdrop hlong := isIdle_of_fired hx hcalls hdrop hlong
  resting steps h := by
    obtain ⟨phase, hstands⟩ := exists_stands w steps
    obtain rfl := hstands.isIdle_iff.mp h
    exact hstands.waits_eq
  forgets _ _ _ hs := sublist_calls_of_forgets hs
  dropped before later hdrop := by
    obtain ⟨phase, hstands⟩ := exists_stands w before
    obtain rfl := hstands.dropped_iff.mpr hdrop
    exact during_of_dropped hstands later

end Firings

end MockupStudio.Rebounce
