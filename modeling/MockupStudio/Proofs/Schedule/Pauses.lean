/-
When a debounced call fires.

* `Debounce.Step`: what may happen to a wrapper, letting time pass included;
  `Debounce.elapsed`: the time that some steps take;
* `Debounce.EndsIn`: the window of a call ends in a step; `Debounce.Unfired`:
  the last call has neither fired nor been forgotten;
* `Debounce.Exact`: the law of firings, of anything that fires step by step;
* `Debounce.fired`: what a step fires on an agenda with one wrapper, where
  timers run as soon as they are due;
* `Debounce.state_after`: the state after some steps, told from the steps;
* `Debounce.exact_fired`: the law holds of that agenda.
-/
import MockupStudio.Schedule.Agenda
import Mathlib.Algebra.GroupWithZero.Nat
import Mathlib.Data.List.Induction
import Mathlib.Tactic.Lemma

namespace MockupStudio.Debounce

/-- What may happen to a wrapper. -/
inductive Step (α : Type) where
  | call (a : α)
  | flush
  | cancel
  | drop
  /-- Time passes. -/
  | advance (span : Nat)

variable {α : Type}

/-- The time that a step takes. -/
def Step.span : Step α → Nat
  | advance span => span
  | _ => 0

/-- The time that some steps take. -/
def elapsed (steps : List (Step α)) : Nat := (steps.map Step.span).sum

/-- A call of `a` and pauses after it. -/
def paused (a : α) (spans : List Nat) : List (Step α) := .call a :: spans.map .advance

/-- The argument of a call. -/
def Step.arg? : Step α → Option α
  | call a => some a
  | _ => none

/-- The arguments of all calls. -/
def calls (steps : List (Step α)) : List α := steps.filterMap Step.arg?

/-! ### The law -/

/-- Something that fires step by step: what a step fires, and when, given the
steps before it. -/
abbrev Fires (α : Type) := List (Step α) → Step α → List (Nat × α)

/-- What some steps fire after others. -/
def Fires.during (fired : Fires α) : List (Step α) → List (Step α) → List (Nat × α)
  | _, [] => []
  | before, s :: rest => fired before s ++ during fired (before ++ [s]) rest

/-- The window of a call of `a` ends at time `t` in step `s`: nothing but time
has come after the call, and the step is the first by whose end it is time. -/
def EndsIn (w : Nat) (before : List (Step α)) (s : Step α) (a : α) (t : Nat) : Prop :=
  ∃ earlier spans, before ++ [s] = earlier ++ paused a spans ∧ .drop ∉ earlier
    ∧ t = elapsed earlier + w ∧ t ≤ elapsed (before ++ [s]) ∧ (spans ≠ [] → elapsed before < t)

/-- The last call is one of `a`, and has neither fired nor been forgotten. -/
def Unfired (fired : Fires α) (steps : List (Step α)) (a : α) : Prop :=
  ∃ earlier later, steps = earlier ++ .call a :: later ∧ .drop ∉ earlier
    ∧ (∀ s ∈ later, s = .flush ∨ ∃ span, s = .advance span)
    ∧ fired.during earlier (.call a :: later) = []

/-- The law of a wrapper with window `w`; `flushes` is what a flush would
answer, and `isPending` whether a call is waiting. -/
structure Exact (w : Nat) (fired : Fires α) (flushes isPending : List (Step α) → Bool) : Prop where
  /-- An argument fires when the window of its call ends, or when it is
  flushed, and at no other time. -/
  fires : ∀ before s t a, (t, a) ∈ fired before s ↔
    EndsIn w before s a t ∨ s = .flush ∧ t = elapsed before ∧ Unfired fired before a
  /-- No step fires twice. -/
  single : ∀ before s, (fired before s).length ≤ 1
  /-- Each call fires at most once, and in the order of the calls. -/
  once : ∀ steps, ((fired.during [] steps).map (·.2)).Sublist (calls steps)
  /-- Calls with pauses that are too short, and a last one with pauses that
  are long enough: the last one fires, and no other. -/
  burst : ∀ before (early : List (α × List Nat)) a spans, .drop ∉ before →
    (∀ b ∈ early, b.2.sum < w) → w ≤ spans.sum →
      fired.during before (early.flatMap (fun b => paused b.1 b.2) ++ paused a spans)
        = [(elapsed (before ++ early.flatMap fun b => paused b.1 b.2) + w, a)]
  /-- A flush says whether it fires. -/
  flush : ∀ before, flushes before = true ↔ fired before .flush ≠ []
  /-- A call is waiting if the last one has neither fired nor been forgotten. -/
  pending : ∀ steps, isPending steps = true ↔ ∃ a, Unfired fired steps a
  /-- A call is waiting if it is only a matter of time until it fires. -/
  outstanding : ∀ steps, isPending steps = true ↔ ∃ span, fired steps (.advance span) ≠ []

/-! ### One wrapper on an agenda -/

/-- An agenda with one wrapper. -/
def alone (w : Nat) : Agenda α := { timers := [some (.debounce { window := w })] }

/-- A step, without the timers that are due by then. -/
def Step.act (s : Step α) (agenda : Agenda α) : List (Firing α) × Agenda α :=
  match s with
  | call a => agenda.call 0 a
  | flush => agenda.flush 0
  | cancel => ([], agenda.cancel 0)
  | drop => ([], agenda.drop 0)
  | advance span => agenda.advance span

/-- A step with the timers that are due by then. -/
def Step.run (s : Step α) (agenda : Agenda α) : List (Firing α) × Agenda α :=
  ((s.act agenda).1 ++ (s.act agenda).2.settle.1, (s.act agenda).2.settle.2)

/-- What some steps leave of the agenda. -/
def after (w : Nat) (steps : List (Step α)) : Agenda α :=
  steps.foldl (fun agenda s => (s.run agenda).2) (alone w)

/-- What a step fires. -/
def fired (w : Nat) : Fires α := fun before s =>
  (s.run (after w before)).1.map fun f => (f.time, f.arg)

/-- The wrapper, if it has not been dropped. -/
def wrapper? (w : Nat) (steps : List (Step α)) : Option (Debounce α) :=
  match (after w steps).timer? 0 with
  | some (.debounce d) => some d
  | _ => none

/-- What a flush would answer. -/
def flushes (w : Nat) (steps : List (Step α)) : Bool :=
  (wrapper? w steps).any fun d => d.flush.1.isSome

/-- Whether a call is waiting. -/
def waits (w : Nat) (steps : List (Step α)) : Bool :=
  (wrapper? w steps).any Debounce.isPending

/-! ### Steps and the calls before them -/

section Steps

variable {w : Nat} {before earlier steps : List (Step α)} {s : Step α} {a b : α} {due t : Nat}

lemma elapsed_append (steps more : List (Step α)) :
    elapsed (steps ++ more) = elapsed steps + elapsed more := by
  simp [elapsed]

lemma elapsed_concat (steps : List (Step α)) (s : Step α) :
    elapsed (steps ++ [s]) = elapsed steps + s.span := by
  simp [elapsed]

lemma elapsed_paused (a : α) (spans : List Nat) : elapsed (paused a spans) = spans.sum := by
  induction spans with
  | nil => rfl
  | cons span spans ih => simpa [elapsed, paused, Step.span, Nat.add_assoc] using ih

/-- The last call waits for its window to end, at `due`. -/
def Waiting (w : Nat) (steps : List (Step α)) (a : α) (due : Nat) : Prop :=
  ∃ earlier spans, steps = earlier ++ paused a spans ∧ .drop ∉ earlier ∧ due = elapsed earlier + w
    ∧ elapsed steps < due

lemma paused_concat (a : α) (spans : List Nat) (span : Nat) :
    paused a (spans ++ [span]) = paused a spans ++ [.advance span] := by
  simp [paused]

lemma drop_notMem_paused (a : α) (spans : List Nat) : .drop ∉ paused a spans := by
  simp [paused]

/-- The last of a call and its pauses is the call, or one more pause. -/
lemma append_singleton_eq_iff {spans : List Nat} : before ++ [s] = earlier ++ paused a spans ↔
    spans = [] ∧ s = .call a ∧ before = earlier
      ∨ ∃ shorter span, spans = shorter ++ [span] ∧ s = .advance span
        ∧ before = earlier ++ paused a shorter := by
  constructor
  · intro h
    cases spans using List.reverseRecOn with
    | nil =>
      obtain ⟨rfl, hs⟩ := List.append_inj' h rfl
      exact .inl ⟨rfl, List.singleton_inj.mp hs, rfl⟩
    | append_singleton shorter span =>
      rw [paused_concat, ← List.append_assoc] at h
      obtain ⟨rfl, hs⟩ := List.append_inj' h rfl
      exact .inr ⟨shorter, span, rfl, List.singleton_inj.mp hs, rfl⟩
  · rintro (⟨rfl, rfl, rfl⟩ | ⟨shorter, span, rfl, rfl, rfl⟩)
    · rfl
    · rw [paused_concat, ← List.append_assoc]

lemma concat_call_eq_iff {spans : List Nat} :
    before ++ [.call b] = earlier ++ paused a spans ↔ spans = [] ∧ b = a ∧ before = earlier := by
  simp [append_singleton_eq_iff]

lemma concat_advance_eq_iff {span : Nat} {spans : List Nat} :
    before ++ [.advance span] = earlier ++ paused a spans ↔
      ∃ shorter, spans = shorter ++ [span] ∧ before = earlier ++ paused a shorter := by
  simp [append_singleton_eq_iff]

lemma Waiting.drop_notMem (h : Waiting w steps a due) : .drop ∉ steps := by
  obtain ⟨earlier, spans, rfl, hdrop, -⟩ := h
  rw [List.mem_append, not_or]
  exact ⟨hdrop, drop_notMem_paused a spans⟩

lemma not_waiting_nil : ¬ Waiting w [] a due := by
  rintro ⟨earlier, spans, h, -⟩
  simp [paused] at h

lemma waiting_call_iff : Waiting w (before ++ [.call b]) a due ↔
    .drop ∉ before ∧ 0 < w ∧ b = a ∧ elapsed before + w = due := by
  have helapsed : elapsed (before ++ [.call b]) = elapsed before := elapsed_concat _ _
  constructor
  · rintro ⟨earlier, spans, h, hdrop, rfl, hlt⟩
    obtain ⟨-, rfl, rfl⟩ := concat_call_eq_iff.mp h
    rw [helapsed] at hlt
    exact ⟨hdrop, Nat.lt_of_add_lt_add_left hlt, rfl, rfl⟩
  · rintro ⟨hdrop, hw, rfl, rfl⟩
    refine ⟨before, [], rfl, hdrop, rfl, ?_⟩
    rw [helapsed]
    exact Nat.add_lt_add_left hw _

lemma waiting_advance_iff {span : Nat} : Waiting w (before ++ [.advance span]) a due ↔
    Waiting w before a due ∧ elapsed before + span < due := by
  have helapsed : elapsed (before ++ [.advance span]) = elapsed before + span := elapsed_concat _ _
  constructor
  · rintro ⟨earlier, spans, h, hdrop, hdue, hlt⟩
    obtain ⟨shorter, -, hbefore⟩ := concat_advance_eq_iff.mp h
    rw [helapsed] at hlt
    exact ⟨⟨earlier, shorter, hbefore, hdrop, hdue, Nat.lt_of_le_of_lt (Nat.le_add_right _ _) hlt⟩,
      hlt⟩
  · rintro ⟨⟨earlier, spans, hbefore, hdrop, hdue, -⟩, hlt⟩
    refine ⟨earlier, spans ++ [span], ?_, hdrop, hdue, helapsed ▸ hlt⟩
    exact concat_advance_eq_iff.mpr ⟨spans, rfl, hbefore⟩

lemma not_waiting (hcall : ∀ b, s ≠ .call b) (hadvance : ∀ span, s ≠ .advance span) :
    ¬ Waiting w (before ++ [s]) a due := by
  rintro ⟨earlier, spans, h, -⟩
  obtain ⟨-, hs, -⟩ | ⟨_, _, -, hs, -⟩ := append_singleton_eq_iff.mp h
  · exact hcall _ hs
  · exact hadvance _ hs

lemma EndsIn.drop_notMem (h : EndsIn w before s a t) : .drop ∉ before ++ [s] := by
  obtain ⟨earlier, spans, h, hdrop, -⟩ := h
  rw [h, List.mem_append, not_or]
  exact ⟨hdrop, drop_notMem_paused a spans⟩

lemma endsIn_call_iff : EndsIn w before (.call b) a t ↔
    .drop ∉ before ∧ w = 0 ∧ b = a ∧ elapsed before = t := by
  have helapsed : elapsed (before ++ [.call b]) = elapsed before := elapsed_concat _ _
  constructor
  · rintro ⟨earlier, spans, h, hdrop, rfl, hle, -⟩
    obtain ⟨-, rfl, rfl⟩ := concat_call_eq_iff.mp h
    rw [helapsed] at hle
    have hw : w = 0 := by omega
    exact ⟨hdrop, hw, rfl, by rw [hw, Nat.add_zero]⟩
  · rintro ⟨hdrop, rfl, rfl, rfl⟩
    exact ⟨before, [], rfl, hdrop, rfl, Nat.le_of_eq helapsed.symm, fun h => absurd rfl h⟩

lemma endsIn_advance_iff {span : Nat} : EndsIn w before (.advance span) a t ↔
    Waiting w before a t ∧ t ≤ elapsed before + span := by
  have helapsed : elapsed (before ++ [.advance span]) = elapsed before + span := elapsed_concat _ _
  constructor
  · rintro ⟨earlier, spans, h, hdrop, ht, hle, hlt⟩
    obtain ⟨shorter, rfl, hbefore⟩ := concat_advance_eq_iff.mp h
    have hlt := hlt (List.append_ne_nil_of_right_ne_nil _ (List.cons_ne_nil _ _))
    exact ⟨⟨earlier, shorter, hbefore, hdrop, ht, hlt⟩, helapsed ▸ hle⟩
  · rintro ⟨⟨earlier, spans, hbefore, hdrop, ht, hlt⟩, hle⟩
    refine ⟨earlier, spans ++ [span], ?_, hdrop, ht, helapsed.symm ▸ hle, fun _ => hlt⟩
    exact concat_advance_eq_iff.mpr ⟨spans, rfl, hbefore⟩

lemma not_endsIn (hcall : ∀ b, s ≠ .call b) (hadvance : ∀ span, s ≠ .advance span) :
    ¬ EndsIn w before s a t := by
  rintro ⟨earlier, spans, h, -⟩
  obtain ⟨-, hs, -⟩ | ⟨_, _, -, hs, -⟩ := append_singleton_eq_iff.mp h
  · exact hcall _ hs
  · exact hadvance _ hs

end Steps

/-! ### The state after some steps -/

/-- One wrapper with what is waiting. -/
def holding (now w : Nat) (p : Option (α × Nat)) : Agenda α :=
  ⟨now, [some (.debounce ⟨w, p⟩)]⟩

section Runs

variable {w now span : Nat} {p : Option (α × Nat)} {a : α}

lemma settle_holding (h : ∀ a due, p = some (a, due) → now < due) :
    (holding now w p).settle = ([], holding now w p) := by
  cases p with
  | none => rfl
  | some x => exact if_neg (Nat.not_le.mpr (h x.1 x.2 rfl))

lemma run_call : (Step.call a).run (holding now w p) =
    if w = 0 then ([(⟨0, now, a⟩ : Firing α)], holding now w none)
    else ([], holding now w (some (a, now + w))) := by
  have hrun : (Step.call a).run (holding now w p) = (holding now w (some (a, now + w))).settle := rfl
  split
  · next hw =>
    subst hw
    exact hrun.trans (if_pos (Nat.le_refl _))
  · next hw =>
    refine hrun.trans (settle_holding fun a due h => ?_)
    cases h
    omega

lemma run_flush : Step.flush.run (holding now w p) =
    ((p.map fun x => (⟨0, now, x.1⟩ : Firing α)).toList, holding now w none) := by
  cases p <;> rfl

lemma run_advance_some {due : Nat} : (Step.advance span).run (holding now w (some (a, due))) =
    if due ≤ now + span then ([⟨0, due, a⟩], holding (now + span) w none)
    else ([], holding (now + span) w (some (a, due))) := by
  have hpassed : (holding now w (some (a, due))).runUntil (now + span)
      (holding now w (some (a, due))).weight =
        if due ≤ now + span then ([⟨0, due, a⟩], holding now w none)
        else ([], holding now w (some (a, due))) := rfl
  have hact : (Step.advance span).act (holding now w (some (a, due)))
      = (((holding now w (some (a, due))).runUntil (now + span)
          (holding now w (some (a, due))).weight).1,
        { ((holding now w (some (a, due))).runUntil (now + span)
          (holding now w (some (a, due))).weight).2 with now := now + span }) := rfl
  rw [Step.run, hact, hpassed]
  split
  · rfl
  · next hdue =>
    have hlater : ∀ b d, some (a, due) = some (b, d) → now + span < d := by
      rintro b d ⟨⟩
      exact Nat.not_le.mp hdue
    exact settle_holding hlater

end Runs

/-- What there is after some steps: no wrapper once it is dropped, and else one
that holds the last call while its window has not ended. -/
inductive State (w : Nat) (steps : List (Step α)) : Agenda α → Prop where
  | dropped : .drop ∈ steps → State w steps ⟨elapsed steps, [none]⟩
  | held : .drop ∉ steps → (∀ a due, p = some (a, due) ↔ Waiting w steps a due) →
      State w steps (holding (elapsed steps) w p)

/-- What a step fires, told from the steps before it, and the state that it
leaves. -/
structure Took (w : Nat) (before : List (Step α)) (s : Step α)
    (r : List (Firing α) × Agenda α) : Prop where
  state : State w (before ++ [s]) r.2
  fires : ∀ t a, (t, a) ∈ r.1.map (fun f => (f.time, f.arg)) ↔
    EndsIn w before s a t ∨ s = .flush ∧ t = elapsed before ∧ ∃ due, Waiting w before a due
  single : r.1.length ≤ 1

section State

variable {w : Nat} {before steps : List (Step α)} {s : Step α} {p : Option (α × Nat)} {a : α}

/-- Nothing fires any more once the wrapper is dropped. -/
lemma took_dropped (hdrop : .drop ∈ before) (s : Step α) :
    Took w before s (s.run ⟨elapsed before, [none]⟩) := by
  have hrun : s.run ⟨elapsed before, [none]⟩ = ([], ⟨elapsed (before ++ [s]), [none]⟩) := by
    rw [elapsed_concat]
    cases s <;> rfl
  have hdropped : .drop ∈ before ++ [s] := List.mem_append_left _ hdrop
  rw [hrun]
  refine ⟨.dropped hdropped, fun t a => iff_of_false List.not_mem_nil ?_, Nat.zero_le _⟩
  rintro (h | ⟨-, -, due, h⟩)
  · exact h.drop_notMem hdropped
  · exact h.drop_notMem hdrop

lemma took_call (hdrop : .drop ∉ before) (a : α) :
    Took w before (.call a) ((Step.call a).run (holding (elapsed before) w p)) := by
  have hnow : elapsed before = elapsed (before ++ [.call a]) := (elapsed_concat before (.call a)).symm
  have hstill : .drop ∉ before ++ [.call a] := by simpa using hdrop
  rw [run_call]
  split
  · next hw =>
    refine ⟨?_, fun t b => ?_, Nat.le_refl _⟩
    · rw [hnow]
      exact .held hstill fun b due => by simp [waiting_call_iff, hw]
    · simp [endsIn_call_iff, hdrop, hw, eq_comm, and_comm]
  · next hw =>
    refine ⟨?_, fun t b => ?_, Nat.zero_le _⟩
    · rw [hnow]
      exact .held hstill fun b due => by
        simp [waiting_call_iff, hdrop, Nat.pos_of_ne_zero hw, ← hnow]
    · simp [endsIn_call_iff, hw]

lemma took_flush (hdrop : .drop ∉ before)
    (hp : ∀ a due, p = some (a, due) ↔ Waiting w before a due) :
    Took w before .flush (Step.flush.run (holding (elapsed before) w p)) := by
  have hnow : elapsed before = elapsed (before ++ [.flush]) := (elapsed_concat before .flush).symm
  have hstill : .drop ∉ before ++ [.flush] := by simpa using hdrop
  rw [run_flush]
  refine ⟨?_, fun t b => ?_, by cases p <;> simp⟩
  · rw [hnow]
    exact .held hstill fun b due =>
      iff_of_false (by simp) (not_waiting (by simp) (by simp))
  · have hends : ¬ EndsIn w before .flush b t := not_endsIn (by simp) (by simp)
    simp only [← hp, hends, false_or, true_and]
    cases p with
    | none => simp
    | some x => simp [Prod.ext_iff, eq_comm]

lemma took_cancel (hdrop : .drop ∉ before) :
    Took w before .cancel (Step.cancel.run (holding (elapsed before) w p)) := by
  have hstill : .drop ∉ before ++ [.cancel] := by simpa using hdrop
  have hrun : Step.cancel.run (holding (elapsed before) w p)
      = ([], holding (elapsed (before ++ [.cancel])) w none) := by
    rw [elapsed_concat]
    rfl
  rw [hrun]
  refine ⟨.held hstill fun b due => ?_, fun t b => ?_, Nat.zero_le _⟩
  · exact iff_of_false (by simp) (not_waiting (by simp) (by simp))
  · simp [not_endsIn]

lemma took_drop : Took w before .drop (Step.drop.run (holding (elapsed before) w p)) := by
  have hrun : Step.drop.run (holding (elapsed before) w p)
      = ([], ⟨elapsed (before ++ [.drop]), [none]⟩) := by
    rw [elapsed_concat]
    rfl
  rw [hrun]
  exact ⟨.dropped (by simp), fun t b => by simp [not_endsIn], Nat.zero_le _⟩

lemma took_advance (hdrop : .drop ∉ before)
    (hp : ∀ a due, p = some (a, due) ↔ Waiting w before a due) (span : Nat) :
    Took w before (.advance span) ((Step.advance span).run (holding (elapsed before) w p)) := by
  have hnow : elapsed before + span = elapsed (before ++ [.advance span]) :=
    (elapsed_concat before (.advance span)).symm
  have hstill : .drop ∉ before ++ [.advance span] := by simpa using hdrop
  cases p with
  | none =>
    have hno (b : α) (due : Nat) : ¬ Waiting w before b due := by simp [← hp]
    have hrun : (Step.advance span).run (holding (elapsed before) w (none : Option (α × Nat)))
        = ([], holding (elapsed before + span) w none) := rfl
    rw [hrun, hnow]
    refine ⟨.held hstill fun b due => ?_, fun t b => ?_, Nat.zero_le _⟩
    · simp [waiting_advance_iff, hno]
    · simp [endsIn_advance_iff, hno]
  | some x =>
    obtain ⟨a, due⟩ := x
    rw [run_advance_some]
    split
    · next hdue =>
      rw [hnow]
      refine ⟨.held hstill fun b d => ?_, fun t b => ?_, Nat.le_refl _⟩
      · rw [waiting_advance_iff, ← hp]
        refine iff_of_false (by simp) ?_
        rintro ⟨⟨⟩, hlt⟩
        exact Nat.not_le.mpr hlt hdue
      · rw [endsIn_advance_iff, ← hp]
        constructor
        · rintro ⟨⟩
          · exact .inl ⟨rfl, hdue⟩
          · contradiction
        · rintro (⟨⟨⟩, -⟩ | ⟨⟨⟩, -⟩)
          exact List.mem_singleton_self _
    · next hdue =>
      rw [hnow]
      refine ⟨.held hstill fun b d => ?_, fun t b => ?_, Nat.zero_le _⟩
      · rw [waiting_advance_iff, ← hp]
        refine ⟨fun h => ⟨h, ?_⟩, And.left⟩
        cases h
        exact Nat.not_le.mp hdue
      · rw [endsIn_advance_iff, ← hp]
        refine iff_of_false List.not_mem_nil ?_
        rintro (⟨⟨⟩, hle⟩ | ⟨⟨⟩, -⟩)
        exact hdue hle

/-- A step of a wrapper in the state that the steps before it tell. -/
lemma took_run {agenda : Agenda α} (h : State w before agenda) (s : Step α) :
    Took w before s (s.run agenda) := by
  cases h with
  | dropped hdrop => exact took_dropped hdrop s
  | held hdrop hp =>
    cases s with
    | call a => exact took_call hdrop a
    | flush => exact took_flush hdrop hp
    | cancel => exact took_cancel hdrop
    | drop => exact took_drop
    | advance span => exact took_advance hdrop hp span

/-- The state after some steps, told from the steps. -/
theorem state_after (w : Nat) (steps : List (Step α)) : State w steps (after w steps) := by
  induction steps using List.reverseRecOn with
  | nil => exact .held (List.not_mem_nil) fun a due => by simp [not_waiting_nil]
  | append_singleton steps s ih =>
    rw [after, List.foldl_append]
    exact (took_run ih s).state

/-- No two calls wait. -/
lemma Waiting.unique {b : α} {due t : Nat} (h : Waiting w steps a due)
    (h' : Waiting w steps b t) : b = a ∧ t = due := by
  have hstate := state_after w steps
  generalize after w steps = agenda at hstate
  cases hstate with
  | dropped hdrop => exact absurd hdrop h.drop_notMem
  | held _ hp =>
    have heq := ((hp a due).mpr h).symm.trans ((hp b t).mpr h')
    cases heq
    exact ⟨rfl, rfl⟩

lemma waits_iff : waits w steps = true ↔ ∃ a due, Waiting w steps a due := by
  have hstate := state_after w steps
  rw [waits, wrapper?]
  generalize after w steps = agenda at hstate
  cases hstate with
  | dropped hdrop =>
    refine iff_of_false Bool.false_ne_true ?_
    rintro ⟨a, due, h⟩
    exact h.drop_notMem hdrop
  | @held p _ hp =>
    change p.isSome = true ↔ _
    simp only [← hp, Option.isSome_iff_exists, Prod.exists]

/-- A flush would answer whether a call waits. -/
lemma flushes_eq_waits (w : Nat) (steps : List (Step α)) : flushes w steps = waits w steps := by
  rw [flushes, waits]
  cases wrapper? w steps with
  | none => rfl
  | some d => exact Option.isSome_map

end State

/-! ### Firings -/

section Firings

variable {w : Nat} {before steps earlier : List (Step α)} {s : Step α} {a b : α} {t due : Nat}
  {spans : List Nat}

lemma fired_iff : (t, a) ∈ fired w before s ↔
    EndsIn w before s a t ∨ s = .flush ∧ t = elapsed before ∧ ∃ due, Waiting w before a due :=
  (took_run (state_after w before) s).fires t a

lemma length_fired_le (w : Nat) (before : List (Step α)) (s : Step α) :
    (fired w before s).length ≤ 1 := by
  rw [fired, List.length_map]
  exact (took_run (state_after w before) s).single

lemma fired_eq_singleton (h : (t, a) ∈ fired w before s) : fired w before s = [(t, a)] := by
  have hlength := Nat.le_antisymm (length_fired_le w before s) (List.length_pos_of_mem h)
  obtain ⟨x, hx⟩ := List.length_eq_one_iff.mp hlength
  rw [hx, List.mem_singleton] at h
  rw [hx, h]

lemma fired_ne_nil_iff : fired w before s ≠ [] ↔ ∃ t a, (t, a) ∈ fired w before s := by
  rw [← Prod.exists (p := fun x => x ∈ fired w before s)]
  exact ⟨List.exists_mem_of_ne_nil _, fun ⟨_, hx⟩ => List.ne_nil_of_mem hx⟩

lemma fired_call_iff : (t, a) ∈ fired w before (.call b) ↔
    .drop ∉ before ∧ w = 0 ∧ b = a ∧ elapsed before = t := by
  simp [fired_iff, endsIn_call_iff]

lemma fired_advance_iff {span : Nat} : (t, a) ∈ fired w before (.advance span) ↔
    Waiting w before a t ∧ t ≤ elapsed before + span := by
  simp [fired_iff, endsIn_advance_iff]

lemma fired_flush_iff : (t, a) ∈ fired w before .flush ↔
    t = elapsed before ∧ ∃ due, Waiting w before a due := by
  simp [fired_iff, not_endsIn]

lemma fired_flush_ne_nil_iff : fired w before .flush ≠ [] ↔ ∃ a due, Waiting w before a due := by
  simp only [fired_ne_nil_iff, fired_flush_iff]
  exact ⟨fun ⟨_, a, _, h⟩ => ⟨a, h⟩, fun ⟨a, h⟩ => ⟨_, a, rfl, h⟩⟩

/-- If a call waits, then some time is enough for something to fire. -/
lemma fired_advance_ne_nil_iff : (∃ span, fired w before (.advance span) ≠ []) ↔
    ∃ a due, Waiting w before a due := by
  simp only [fired_ne_nil_iff, fired_advance_iff]
  exact ⟨fun ⟨_, due, a, h, _⟩ => ⟨a, due, h⟩,
    fun ⟨a, due, h⟩ => ⟨due, due, a, h, Nat.le_add_left _ _⟩⟩

lemma during_append (fired : Fires α) (before steps more : List (Step α)) :
    fired.during before (steps ++ more)
      = fired.during before steps ++ fired.during (before ++ steps) more := by
  induction steps generalizing before with
  | nil => rw [List.append_nil]; rfl
  | cons s steps ih =>
    rw [List.cons_append, Fires.during, Fires.during, ih, List.append_assoc, List.append_assoc]
    rfl

lemma during_concat (fired : Fires α) (before steps : List (Step α)) (s : Step α) :
    fired.during before (steps ++ [s]) = fired.during before steps ++ fired (before ++ steps) s := by
  rw [during_append, Fires.during, Fires.during, List.append_nil]

/-! ### Calls and pauses -/

/-- After a call and pauses, the call waits if the pauses have been too short. -/
lemma waiting_paused_iff : Waiting w (before ++ paused a spans) b due ↔
    .drop ∉ before ∧ a = b ∧ elapsed before + w = due ∧ spans.sum < w := by
  induction spans using List.reverseRecOn with
  | nil =>
    rw [List.sum_nil]
    exact waiting_call_iff.trans ⟨fun ⟨hdrop, hw, hb, hdue⟩ => ⟨hdrop, hb, hdue, hw⟩,
      fun ⟨hdrop, hb, hdue, hw⟩ => ⟨hdrop, hw, hb, hdue⟩⟩
  | append_singleton spans span ih =>
    rw [paused_concat, ← List.append_assoc, waiting_advance_iff, ih, elapsed_append,
      elapsed_paused, List.sum_append, List.sum_singleton]
    constructor
    · rintro ⟨⟨hdrop, rfl, rfl, -⟩, hlt⟩
      exact ⟨hdrop, rfl, rfl, by omega⟩
    · rintro ⟨hdrop, rfl, rfl, hlt⟩
      exact ⟨⟨hdrop, rfl, rfl, by omega⟩, by omega⟩

/-- A pause after a call fires the call if its window ends in it. -/
lemma fired_after_paused_iff {span : Nat} :
    (t, b) ∈ fired w (before ++ paused a spans) (.advance span) ↔
      .drop ∉ before ∧ a = b ∧ elapsed before + w = t ∧ spans.sum < w
        ∧ w ≤ spans.sum + span := by
  rw [fired_advance_iff, waiting_paused_iff, elapsed_append, elapsed_paused]
  constructor
  · rintro ⟨⟨hdrop, rfl, rfl, hshort⟩, hle⟩
    exact ⟨hdrop, rfl, rfl, hshort, by omega⟩
  · rintro ⟨hdrop, rfl, rfl, hshort, hle⟩
    exact ⟨⟨hdrop, rfl, rfl, hshort⟩, by omega⟩

lemma during_paused_concat (span : Nat) : (fired w).during before (paused a (spans ++ [span]))
    = (fired w).during before (paused a spans)
      ++ fired w (before ++ paused a spans) (.advance span) := by
  rw [paused_concat, during_concat]

/-- Nothing fires as long as the pauses are too short. -/
lemma during_paused_short (hshort : spans.sum < w) :
    (fired w).during before (paused a spans) = [] := by
  induction spans using List.reverseRecOn with
  | nil =>
    refine (List.append_nil _).trans (not_not.mp fun h => ?_)
    obtain ⟨t, b, h⟩ := fired_ne_nil_iff.mp h
    exact Nat.ne_of_gt hshort (fired_call_iff.mp h).2.1
  | append_singleton spans span ih =>
    rw [List.sum_append, List.sum_singleton] at hshort
    rw [during_paused_concat, ih (by omega), List.nil_append]
    refine not_not.mp fun h => ?_
    obtain ⟨t, b, h⟩ := fired_ne_nil_iff.mp h
    obtain ⟨-, -, -, -, hlong⟩ := fired_after_paused_iff.mp h
    omega

/-- With long pauses, the call fires at the end of its window. -/
lemma during_paused_long (hdrop : .drop ∉ before) (hlong : w ≤ spans.sum) :
    (fired w).during before (paused a spans) = [(elapsed before + w, a)] := by
  induction spans using List.reverseRecOn with
  | nil =>
    have hw : w = 0 := Nat.le_zero.mp hlong
    have hmem : (elapsed before + w, a) ∈ fired w before (.call a) :=
      fired_call_iff.mpr ⟨hdrop, hw, rfl, by rw [hw, Nat.add_zero]⟩
    exact (List.append_nil _).trans (fired_eq_singleton hmem)
  | append_singleton spans span ih =>
    rw [List.sum_append, List.sum_singleton] at hlong
    rw [during_paused_concat]
    by_cases hshort : spans.sum < w
    · have hmem : (elapsed before + w, a) ∈ fired w (before ++ paused a spans) (.advance span) :=
        fired_after_paused_iff.mpr ⟨hdrop, rfl, rfl, hshort, hlong⟩
      rw [during_paused_short hshort, fired_eq_singleton hmem, List.nil_append]
    · have hnone : fired w (before ++ paused a spans) (.advance span) = [] := by
        refine not_not.mp fun h => hshort ?_
        obtain ⟨t, b, h⟩ := fired_ne_nil_iff.mp h
        exact (fired_after_paused_iff.mp h).2.2.2.1
      rw [ih (Nat.not_lt.mp hshort), hnone, List.append_nil]

/-- Of calls with short pauses, and a last one with long pauses, the last one
fires. -/
lemma during_burst (early : List (α × List Nat)) (hdrop : .drop ∉ before)
    (hshort : ∀ b ∈ early, b.2.sum < w) (hlong : w ≤ spans.sum) :
    (fired w).during before (early.flatMap (fun b => paused b.1 b.2) ++ paused a spans)
      = [(elapsed (before ++ early.flatMap fun b => paused b.1 b.2) + w, a)] := by
  induction early generalizing before with
  | nil => simpa using during_paused_long hdrop hlong
  | cons b early ih =>
    rw [List.forall_mem_cons] at hshort
    have hdrop' : .drop ∉ before ++ paused b.1 b.2 := by
      rw [List.mem_append, not_or]
      exact ⟨hdrop, drop_notMem_paused _ _⟩
    rw [List.flatMap_cons, List.append_assoc, during_append, during_paused_short hshort.1,
      ih hdrop' hshort.2, List.nil_append, List.append_assoc]

/-! ### The last call -/

lemma waiting_of_unfired_call (hdrop : .drop ∉ before) (hunfired : fired w before (.call a) = []) :
    Waiting w (before ++ [.call a]) a (elapsed before + w) := by
  refine waiting_call_iff.mpr ⟨hdrop, Nat.pos_of_ne_zero fun hw => ?_, rfl, rfl⟩
  exact fired_ne_nil_iff.mpr ⟨_, a, fired_call_iff.mpr ⟨hdrop, hw, rfl, rfl⟩⟩ hunfired

/-- A call goes on waiting if it is not fired. -/
lemma Waiting.of_unfired (h : Waiting w before a due) (hs : s = .flush ∨ ∃ span, s = .advance span)
    (hunfired : fired w before s = []) : Waiting w (before ++ [s]) a due := by
  obtain rfl | ⟨span, rfl⟩ := hs
  · exact absurd hunfired (fired_flush_ne_nil_iff.mpr ⟨a, due, h⟩)
  · refine waiting_advance_iff.mpr ⟨h, Nat.not_le.mp fun hle => ?_⟩
    exact fired_ne_nil_iff.mpr ⟨due, a, fired_advance_iff.mpr ⟨h, hle⟩⟩ hunfired

lemma waiting_of_during_eq_nil {later : List (Step α)} (hdrop : .drop ∉ earlier)
    (hlater : ∀ s ∈ later, s = .flush ∨ ∃ span, s = .advance span)
    (hunfired : (fired w).during earlier (.call a :: later) = []) :
    Waiting w (earlier ++ .call a :: later) a (elapsed earlier + w) := by
  induction later using List.reverseRecOn with
  | nil => exact waiting_of_unfired_call hdrop ((List.append_nil _).symm.trans hunfired)
  | append_singleton later s ih =>
    rw [← List.cons_append, during_concat, List.append_eq_nil_iff] at hunfired
    rw [List.forall_mem_append, List.forall_mem_singleton] at hlater
    rw [← List.cons_append, ← List.append_assoc]
    exact (ih hlater.1 hunfired.1).of_unfired hlater.2 hunfired.2

/-- The last call has neither fired nor been forgotten if it waits. -/
lemma unfired_iff : Unfired (fired w) steps a ↔ ∃ due, Waiting w steps a due := by
  constructor
  · rintro ⟨earlier, later, rfl, hdrop, hlater, hunfired⟩
    exact ⟨_, waiting_of_during_eq_nil hdrop hlater hunfired⟩
  · rintro ⟨due, earlier, spans, rfl, hdrop, hdue, hlt⟩
    refine ⟨earlier, spans.map .advance, rfl, hdrop, fun s hs => ?_, ?_⟩
    · obtain ⟨span, -, rfl⟩ := List.mem_map.mp hs
      exact .inr ⟨span, rfl⟩
    · refine during_paused_short ?_
      rw [elapsed_append, elapsed_paused] at hlt
      omega

/-- A call that waits after a step either waited before or is made in it. -/
lemma waiting_concat (h : Waiting w (before ++ [s]) a due) :
    s = .call a ∨ (∃ span, s = .advance span) ∧ Waiting w before a due := by
  cases s with
  | call b =>
    obtain ⟨-, -, rfl, -⟩ := waiting_call_iff.mp h
    exact .inl rfl
  | advance span => exact .inr ⟨⟨span, rfl⟩, (waiting_advance_iff.mp h).1⟩
  | flush | cancel | drop => exact absurd h (not_waiting (by simp) (by simp))

/-- What a step fires has waited, or is called in the step. -/
lemma waiting_of_fired (h : (t, a) ∈ fired w before s) :
    s = .call a ∨ ∃ due, Waiting w before a due := by
  obtain hends | ⟨-, -, hwaiting⟩ := fired_iff.mp h
  · cases s with
    | call b =>
      obtain ⟨-, -, rfl, -⟩ := endsIn_call_iff.mp hends
      exact .inl rfl
    | advance span => exact .inr ⟨t, (endsIn_advance_iff.mp hends).1⟩
    | flush | cancel | drop => exact absurd hends (not_endsIn (by simp) (by simp))
  · exact .inr hwaiting

/-- Nothing waits after a step that fires something. -/
lemma not_waiting_of_fired (h : (t, a) ∈ fired w before s) :
    ¬ Waiting w (before ++ [s]) b due := by
  intro hwaiting
  cases s with
  | call c =>
    obtain ⟨-, hw, -⟩ := waiting_call_iff.mp hwaiting
    exact Nat.ne_of_gt hw (fired_call_iff.mp h).2.1
  | advance span =>
    obtain ⟨hbefore, hlt⟩ := waiting_advance_iff.mp hwaiting
    obtain ⟨hfired, hle⟩ := fired_advance_iff.mp h
    obtain ⟨-, rfl⟩ := hbefore.unique hfired
    exact Nat.not_le.mpr hlt hle
  | flush | cancel | drop => exact not_waiting (by simp) (by simp) hwaiting

/-- What has fired, and the call that waits, are among the calls, in the order
of these. -/
lemma sublist_calls (w : Nat) (steps : List (Step α)) :
    (((fired w).during [] steps).map (·.2)).Sublist (calls steps)
      ∧ ∀ a due, Waiting w steps a due →
        (((fired w).during [] steps).map (·.2) ++ [a]).Sublist (calls steps) := by
  induction steps using List.reverseRecOn with
  | nil => exact ⟨List.nil_sublist _, fun a due h => absurd h not_waiting_nil⟩
  | append_singleton steps s ih =>
    obtain ⟨ih, ihwaiting⟩ := ih
    have hcalls : calls (steps ++ [s]) = calls steps ++ calls [s] := List.filterMap_append
    rw [during_concat, List.map_append, List.nil_append, hcalls]
    by_cases hfired : fired w steps s = []
    · rw [hfired, List.map_nil, List.append_nil]
      refine ⟨ih.trans (List.sublist_append_left _ _), fun a due h => ?_⟩
      obtain rfl | ⟨-, h⟩ := waiting_concat h
      · exact ih.append_right _
      · exact (ihwaiting a due h).trans (List.sublist_append_left _ _)
    · obtain ⟨t, a, hmem⟩ := fired_ne_nil_iff.mp hfired
      rw [fired_eq_singleton hmem]
      refine ⟨?_, fun b due h => absurd h (not_waiting_of_fired hmem)⟩
      obtain rfl | ⟨due, h⟩ := waiting_of_fired hmem
      · exact ih.append_right _
      · exact (ihwaiting a due h).trans (List.sublist_append_left _ _)

/-- The law holds of one wrapper on an agenda. -/
theorem exact_fired (w : Nat) : Exact w (fired (α := α) w) (flushes w) (waits w) where
  fires before s t a := by rw [fired_iff, unfired_iff]
  single := length_fired_le w
  once steps := (sublist_calls w steps).1
  burst before early a spans hdrop hshort hlong := during_burst early hdrop hshort hlong
  flush before := by rw [flushes_eq_waits, waits_iff, fired_flush_ne_nil_iff]
  pending steps := by
    simp only [waits_iff, unfired_iff]
  outstanding steps := by rw [waits_iff, fired_advance_ne_nil_iff]

end Firings

end MockupStudio.Debounce
