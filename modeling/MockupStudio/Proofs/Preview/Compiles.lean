/-
No edit is left uncompiled.

* `Facet.Armed`: a compile of a part is waiting just when the part is dirty
  and compiled without being asked for; every step keeps it;
* `Facet.Timely`: no compile waits longer than its window;
* `Step.touches`, `Session.attempts`: the steps that put a text in a part, and
  the texts of it that a run compiles;
* `Preview.Current`: the text compiled last is the one there is, and what has
  come of it is shown; clean parts stay current (`Preview.current_steps`);
* `Session.Compiled`: what is expected of a part once nothing waits;
* `Session.pending_iff_dirty_and_compiled`: all runs;
* `Session.last_attempt_ran`: the compile that ran for the text compiled last.
-/
import MockupStudio.Proofs.Preview.Outcomes
import MockupStudio.Proofs.Preview.Windows
import Mathlib.Algebra.GroupWithZero.Nat

namespace MockupStudio

open Script

/-! ### One part -/

namespace Facet

variable {f : Facet} {stage : Stage} {s : Step}

/-- A compile is waiting just when there is something to compile unasked. -/
def Armed (f : Facet) : Prop := f.compile.isPending ↔ f.dirty ∧ f.autoReload

@[simp] lemma isPending_cancel (d : Debounce Unit) : d.cancel.isPending = false := rfl

@[simp] lemma isPending_call (d : Debounce Unit) (now : Nat) :
    (d.call now ()).isPending = true := rfl

lemma armed_settled (h : f.Armed) : f.settled.Armed := by
  rw [Armed] at h ⊢
  simp only [settled, isPending_cancel, Bool.false_eq_true, false_iff, not_and]
  intro hdirty hreload
  simp only [Bool.and_eq_true, Bool.not_eq_true'] at hdirty
  have hpending := h.mpr ⟨hdirty.1, hreload⟩
  rw [hdirty.2] at hpending
  cases hpending

lemma armed_edited (h : f.Armed) (now : Nat) (text : String) : (f.edited now text).Armed := by
  rw [Armed] at h ⊢
  rw [edited]
  cases hreload : f.autoReload with
  | true => simp
  | false =>
    have hidle : f.compile.isPending = false := by
      cases hpending : f.compile.isPending with
      | false => rfl
      | true =>
        have h := (h.mp hpending).2
        rw [hreload] at h
        cases h
    simp [hidle]

/-- Every step keeps it. -/
lemma Armed.step (h : f.Armed) : (f.step stage s).Armed := by
  cases s with
  | load name sources => simp [Facet.step, Armed]
  | edit now t text =>
    rw [Facet.step]
    split
    · exact armed_edited h now text
    · exact h
  | compileNow t =>
    rw [Facet.step]
    split
    · simp [Armed, compiled]
    · exact h
  | setAutoReload t enabled =>
    rw [Facet.step]
    split
    · cases enabled <;> simp [Armed]
    · exact h
  | flush => exact armed_settled h
  | expire alarm time =>
    cases alarm with
    | compile t =>
      rw [Facet.step]
      split
      · exact armed_settled h
      · exact h
    | save t =>
      rw [Facet.step]
      split <;> exact h
  | _ => exact h

/-- With no compile waiting, a part that is compiled unasked is clean. -/
lemma Armed.clean (h : f.Armed) (hidle : f.compile.isPending = false) (hreload : f.autoReload) :
    f.dirty = false := by
  cases hdirty : f.dirty with
  | false => rfl
  | true =>
    have hpending := h.mpr ⟨hdirty, hreload⟩
    rw [hidle] at hpending
    cases hpending

/-- A compile that is waiting does so for at most its window from a point in
time on. -/
def Timely (window time : Nat) (f : Facet) : Prop :=
  f.compile.window = window ∧ ∀ d, f.compile.due? = some d → d ≤ time + window

/-- Every step keeps it that is not a later edit. -/
lemma Timely.step {window time : Nat} (h : f.Timely window time)
    (hedit : ∀ now t text, s = .edit now t text → now ≤ time) :
    (f.step stage s).Timely window time := by
  have hcancel : ∀ g : Facet, g.compile = f.compile.cancel → g.Timely window time := by
    intro g hg
    rw [Timely, hg]
    exact ⟨h.1, fun d hd => by cases hd⟩
  cases s with
  | load name sources => exact hcancel _ rfl
  | edit now t text =>
    have hnow := hedit now t text rfl
    rw [Facet.step]
    split
    · rw [edited]
      split
      · refine ⟨h.1, fun d hd => ?_⟩
        have hd : now + f.compile.window = d := Option.some.inj hd
        rw [h.1] at hd
        omega
      · exact h
    · exact h
  | compileNow t =>
    rw [Facet.step]
    split
    · exact hcancel _ rfl
    · exact h
  | setAutoReload t enabled =>
    rw [Facet.step]
    split
    · exact hcancel _ rfl
    · exact h
  | flush => exact hcancel _ rfl
  | expire alarm due =>
    cases alarm with
    | compile t =>
      rw [Facet.step]
      split
      · exact hcancel _ rfl
      · exact h
    | save t =>
      rw [Facet.step]
      split <;> exact h
  | _ => exact h

/-- What happens by itself lets no compile wait that did not. -/
lemma due?_of_passive (hs : s.Passive) {d : Nat}
    (hd : (f.step stage s).compile.due? = some d) : f.compile.due? = some d := by
  cases hs with
  | expire alarm time =>
    cases alarm with
    | compile t =>
      rw [Facet.step] at hd
      split at hd
      · cases hd
      · exact hd
    | save t =>
      rw [Facet.step] at hd
      split at hd <;> exact hd
  | handOver => exact hd
  | saved => exact hd

end Facet

/-- Whether a step puts a text in a part. -/
def Step.touches (stage : Stage) : Step → Bool
  | .load .. => true
  | .edit _ s _ => s = stage
  | _ => false

namespace Facet

variable {f : Facet} {stage : Stage} {s : Step}

/-- A step leaves a part dirty, or compiles its text, or leaves text and flag
alone. -/
lemma attempt?_step : (f.step stage s).dirty
    ∨ f.attempt? stage s = some (f.step stage s).text
    ∨ (f.attempt? stage s = none ∧ (f.step stage s).text = f.text
      ∧ (f.step stage s).dirty = f.dirty ∧ s.touches stage = false) := by
  have hsettled : (f.compile.isPending = true ∧ f.settled.text = f.text)
      ∨ (f.compile.isPending = false ∧ f.settled.text = f.text ∧ f.settled.dirty = f.dirty) := by
    cases h : f.compile.isPending <;> simp [settled, h]
  cases s with
  | load name sources => exact .inr (.inl rfl)
  | edit now t text =>
    by_cases ht : t = stage
    · exact .inl (by simp [Facet.step, ht, edited])
    · exact .inr (.inr (by simp [Facet.step, attempt?, Step.touches, ht]))
  | compileNow t =>
    by_cases ht : t = stage
    · exact .inr (.inl (by simp [Facet.step, attempt?, ht, compiled]))
    · exact .inr (.inr (by simp [Facet.step, attempt?, Step.touches, ht]))
  | setAutoReload t enabled =>
    by_cases ht : t = stage
    · cases hdirty : f.dirty <;> cases enabled <;>
        simp [Facet.step, attempt?, Step.touches, ht, hdirty]
    · exact .inr (.inr (by simp [Facet.step, attempt?, Step.touches, ht]))
  | flush =>
    rcases hsettled with ⟨hpending, htext⟩ | ⟨hpending, htext, hdirty⟩
    · exact .inr (.inl (by simp [Facet.step, attempt?, hpending, htext]))
    · exact .inr (.inr (by simp [Facet.step, attempt?, Step.touches, hpending, htext, hdirty]))
  | expire alarm time =>
    cases alarm with
    | compile t =>
      by_cases ht : t = stage
      · rcases hsettled with ⟨hpending, htext⟩ | ⟨hpending, htext, hdirty⟩
        · exact .inr (.inl (by simp [Facet.step, attempt?, ht, hpending, htext]))
        · exact .inr (.inr (by
            simp [Facet.step, attempt?, Step.touches, ht, hpending, htext, hdirty]))
      · exact .inr (.inr (by simp [Facet.step, attempt?, Step.touches, ht]))
    | save t =>
      by_cases ht : t = stage <;>
        exact .inr (.inr (by simp [Facet.step, attempt?, Step.touches, ht]))
  | _ => exact .inr (.inr ⟨rfl, rfl, rfl, rfl⟩)

end Facet

namespace Preview

variable {p : Preview} {stage : Stage} {last : Option String}

/-- The text compiled last is the one the part has, and the part shows what has
come of it. -/
def Current (p : Preview) (stage : Stage) (last : Option String) : Prop :=
  last = some (p.slot stage).text ∧ p.Shows stage

/-- If a part that has been given a text is current when clean, it is so after
a step. -/
lemma current_step {touched : Prop} (h : touched → (p.slot stage).dirty = false →
      p.Current stage last) {step : Step} (htouched : touched ∨ step.touches stage)
    (hclean : ((p.step step).slot stage).dirty = false) :
    (p.step step).Current stage (((p.facet stage).attempt? stage step).or last) := by
  have hfacet := facet_step p step stage
  have htext : ((p.step step).slot stage).text = ((p.facet stage).step stage step).text :=
    congrArg Facet.text hfacet
  have hdirty : ((p.step step).slot stage).dirty = ((p.facet stage).step stage step).dirty :=
    congrArg Facet.dirty hfacet
  rcases (p.facet stage).attempt?_step with hdirty' | hattempt | ⟨hattempt, hsame, hflag, huntouched⟩
  · rw [hdirty, hdirty'] at hclean
    cases hclean
  · refine ⟨?_, shows_of_attempt? ?_⟩
    · rw [hattempt, htext]
      rfl
    · rw [hattempt]
      rfl
  · have htouched : touched := htouched.resolve_right fun htouches => by
      rw [huntouched] at htouches
      cases htouches
    have hsame : ((p.step step).slot stage).text = (p.slot stage).text := htext.trans hsame
    obtain ⟨hlast, hshows⟩ := h htouched (hflag.symm.trans (hdirty.symm.trans hclean))
    refine ⟨?_, hshows.of_step hattempt hsame⟩
    rw [hattempt, hsame]
    exact hlast

/-- The same after any steps. -/
lemma current_steps (touched : Prop) (last : Option String)
    (h : touched → (p.slot stage).dirty = false → p.Current stage last) (taken : List Step)
    (htouched : touched ∨ ∃ step ∈ taken, step.touches stage)
    (hclean : ((p.steps taken).slot stage).dirty = false) :
    (p.steps taken).Current stage (((p.facet stage).attempts stage taken).getLast?.or last) := by
  induction taken generalizing p last touched with
  | nil =>
    rcases htouched with htouched | ⟨step, hstep, -⟩
    · exact h htouched hclean
    · cases hstep
  | cons step taken ih =>
    have hlast : ((p.facet stage).attempts stage (step :: taken)).getLast?.or last
        = (((p.step step).facet stage).attempts stage taken).getLast?.or
          (((p.facet stage).attempt? stage step).or last) := by
      rw [Facet.attempts, ← facet_step, List.getLast?_append, Option.or_assoc]
      cases (p.facet stage).attempt? stage step <;> rfl
    rw [hlast]
    refine ih _ _ (current_step h) ?_ hclean
    rcases htouched with htouched | ⟨t, ht, htouches⟩
    · exact .inl (.inl htouched)
    · rcases List.mem_cons.mp ht with rfl | ht
      · exact .inl (.inr htouches)
      · exact .inr ⟨t, ht, htouches⟩

/-- Where a text is compiled last, and nothing is after that. -/
lemma exists_last_attempt {taken : List Step} {text : String}
    (h : ((p.facet stage).attempts stage taken).getLast? = some text) :
    ∃ before step after, taken = before ++ step :: after
      ∧ ((p.steps before).facet stage).attempt? stage step = some text
      ∧ (((p.steps before).step step).facet stage).attempts stage after = [] := by
  induction taken generalizing p with
  | nil => cases h
  | cons step taken ih =>
    rw [Facet.attempts, ← facet_step, List.getLast?_append] at h
    cases hlast : (((p.step step).facet stage).attempts stage taken).getLast? with
    | none =>
      refine ⟨[], step, taken, rfl, ?_, List.getLast?_eq_none_iff.mp hlast⟩
      rw [hlast, Option.none_or] at h
      cases hattempt : (p.facet stage).attempt? stage step with
      | none =>
        rw [hattempt] at h
        cases h
      | some first =>
        rw [hattempt] at h
        exact h ▸ hattempt
    | some last =>
      rw [hlast, Option.some_or] at h
      obtain ⟨before, next, after, rfl, hattempt, hnone⟩ := ih (hlast.trans h)
      exact ⟨step :: before, next, after, rfl, hattempt, hnone⟩

/-- Steps that do not compile a part leave its artifact alone. -/
lemma artifact_of_no_attempt {taken : List Step}
    (h : (p.facet stage).attempts stage taken = []) :
    ((p.steps taken).slot stage).artifact = (p.slot stage).artifact := by
  induction taken generalizing p with
  | nil => rfl
  | cons step taken ih =>
    rw [Facet.attempts, ← facet_step, List.append_eq_nil_iff, Option.toList_eq_nil_iff] at h
    rw [steps_cons, ih h.2]
    exact (slot_of_attempt?_eq_none h.1).1

end Preview

/-! ### Runs -/

namespace Session

variable {σ : Type}

/-- The texts of a part that a run compiles, one after the other. -/
def attempts (store : DocumentStore σ) (s : Session σ) (deeds : List Deed) (stage : Stage) :
    List String := (s.preview.facet stage).attempts stage (s.runSteps store deeds)

/-- Whether a run puts a text in a part. -/
def Touched (store : DocumentStore σ) (s : Session σ) (deeds : List Deed) (stage : Stage) : Prop :=
  ∃ step ∈ s.runSteps store deeds, step.touches stage

/-- After a run a part that is compiled without being asked for is clean, and
if it has been given a text, that text has been compiled last. -/
def Compiled (store : DocumentStore σ) (s : Session σ) (deeds : List Deed) (stage : Stage) :
    Prop :=
  let p := (s.run store deeds).preview
  (p.slot stage).autoReload → (p.slot stage).dirty = false
    ∧ (s.Touched store deeds stage → p.Current stage (s.attempts store deeds stage).getLast?)

section Runs

variable {store : DocumentStore σ} {id : String} {settings : Settings} {supply : Supply}
  {markup style : Compiler} {contents : σ} {now : Nat} {deeds : List Deed} {stage : Stage}

/-- The part of a session just begun. -/
lemma facet_begin : (begin id settings supply markup style contents now).preview.facet stage
    = ⟨"", false, settings.autoReload.get stage, { window := settings.compileDebounce },
      { window := settings.saveRebounce }⟩ := by
  cases stage <;> rfl

lemma facet_run (s : Session σ) : (s.run store deeds).preview.facet stage
    = (s.preview.facet stage).steps stage (s.runSteps store deeds) := by
  rw [preview_run, Preview.facet_steps]

lemma armed_steps (taken : List Step) : (((begin id settings supply markup style contents
    now).preview.steps taken).facet stage).Armed := by
  rw [Preview.facet_steps]
  refine Facet.steps_induction ?_ fun f s _ h => h.step
  rw [facet_begin]
  simp [Facet.Armed, Debounce.isPending]

lemma armed_run : (((begin id settings supply markup style contents now).run store
    deeds).preview.facet stage).Armed := by
  rw [preview_run]
  exact armed_steps _

lemma timely_run : (((begin id settings supply markup style contents now).run store
    deeds).preview.facet stage).Timely settings.compileDebounce
      ((begin id settings supply markup style contents now).run store deeds).now := by
  rw [facet_run]
  refine Facet.steps_induction ?_ fun f s hs h => h.step fun time t text hedit => ?_
  · rw [facet_begin]
    exact ⟨rfl, fun d hd => by cases hd⟩
  · rw [hedit] at hs
    exact edit_le_now hs

/-- A part for which no compile is waiting is as expected. -/
lemma compiled_of_idle (h : (((begin id settings supply markup style contents now).run store
    deeds).preview.facet stage).compile.isPending = false) :
    (begin id settings supply markup style contents now).Compiled store deeds stage := by
  intro hreload
  have hclean := armed_run.clean h hreload
  refine ⟨hclean, fun htouched => ?_⟩
  change ((Session.run store _ deeds).preview.slot stage).dirty = false at hclean
  rw [preview_run] at hclean ⊢
  have hcurrent := Preview.current_steps False none (fun h => h.elim) _ (.inr htouched) hclean
  rwa [Option.or_none] at hcurrent

lemma runSteps_passive (s : Session σ) (pauses : List (Timestamp × Nat)) :
    ∀ step ∈ s.runSteps store (pauses.map fun pause => .advance pause.1 pause.2),
      step.Passive := by
  induction pauses generalizing s with
  | nil => exact fun _ h => (List.not_mem_nil h).elim
  | cons pause pauses ih =>
    intro step h
    rcases List.mem_append.mp h with h | h
    · exact passive_of_advance h
    · exact ih _ step h

lemma now_pauses (s : Session σ) (pauses : List (Timestamp × Nat)) :
    (s.run store (pauses.map fun pause => .advance pause.1 pause.2)).now
      = s.now + (pauses.map (·.2)).sum := by
  induction pauses generalizing s with
  | nil => rfl
  | cons pause pauses ih =>
    rw [List.map_cons, run_cons, ih, now_perform, List.map_cons, List.sum_cons]
    dsimp only
    omega

/-- What is waiting after time has passed, has waited before. -/
lemma due?_of_pauses (s : Session σ) (pauses : List (Timestamp × Nat)) {d : Nat}
    (hd : ((s.run store (pauses.map fun pause => .advance pause.1 pause.2)).preview.facet
      stage).compile.due? = some d) : (s.preview.facet stage).compile.due? = some d := by
  have hpassive : ∀ step ∈ s.runSteps store (pauses.map fun pause => .advance pause.1 pause.2),
      step.Passive := runSteps_passive s pauses
  rw [facet_run] at hd
  exact Facet.steps_induction (I := fun f => f.compile.due? = some d →
    (s.preview.facet stage).compile.due? = some d) id
      (fun f step hstep h hf => h (Facet.due?_of_passive (hpassive step hstep) hf)) hd

/-- After a pause as long as the window of compiles, none is waiting. -/
lemma idle_of_pauses {s : Session σ} {window : Nat}
    (htimely : (s.preview.facet stage).Timely window s.now) {pauses : List (Timestamp × Nat)}
    (hne : pauses ≠ []) (hlong : window ≤ (pauses.map (·.2)).sum) :
    ((s.run store (pauses.map fun pause => .advance pause.1 pause.2)).preview.facet
      stage).compile.isPending = false := by
  rw [Bool.eq_false_iff]
  intro hpending
  obtain ⟨⟨_, d⟩, hd⟩ := Option.isSome_iff_exists.mp hpending
  have hdue : ((s.run store (pauses.map fun pause => .advance pause.1 pause.2)).preview.facet
      stage).compile.due? = some d := by rw [Debounce.due?, hd]; rfl
  -- it was to end within the pause, and the last part of the pause ends it
  have hsoon := htimely.2 d (due?_of_pauses s pauses hdue)
  have hnow : (s.run store (pauses.map fun pause => .advance pause.1 pause.2)).now
      = s.now + (pauses.map (·.2)).sum := now_pauses s pauses
  obtain hnil | ⟨init, pause, rfl⟩ := List.eq_nil_or_concat pauses
  · exact hne hnil
  · have hlast : s.run store ((init ++ [pause]).map fun pause => .advance pause.1 pause.2)
        = (s.run store (init.map fun pause => .advance pause.1 pause.2)).advance store pause.1
          pause.2 := by
      rw [List.map_append, run_append]
      rfl
    rw [List.concat_eq_append] at hdue hnow hlong
    rw [hlast] at hdue hnow
    have hlate : _ < d := (lt_of_advance pause.2 stage).1 d hdue
    omega

/-- After a flush, no compile is waiting. -/
lemma idle_of_flush (moment : Timestamp) :
    (((begin id settings supply markup style contents now).run store
      (deeds ++ [.flush moment])).preview.facet stage).compile.isPending = false := by
  rw [run_append, run_cons, run_nil, perform, facet_flushed]
  rfl

/-- After every run, and after any steps whatever, a compile of a part is
waiting just when the part is dirty and compiled without being asked for; and
after a long enough pause or a flush such parts are clean, the text that was
compiled last being the one they have. -/
theorem pending_iff_dirty_and_compiled (store : DocumentStore σ) (id : String)
    (settings : Settings) (supply : Supply) (markup style : Compiler) (contents : σ) (now : Nat)
    (deeds : List Deed) (stage : Stage) :
    let s := begin id settings supply markup style contents now
    let p := (s.run store deeds).preview
    ((p.compiles.get stage).isPending ↔ (p.slot stage).dirty ∧ (p.slot stage).autoReload)
      ∧ (∀ taken, let q := s.preview.steps taken
        (q.compiles.get stage).isPending ↔ (q.slot stage).dirty ∧ (q.slot stage).autoReload)
      ∧ (∀ pauses : List (Timestamp × Nat), pauses ≠ [] →
        settings.compileDebounce ≤ (pauses.map (·.2)).sum →
          s.Compiled store (deeds ++ pauses.map fun pause => .advance pause.1 pause.2) stage)
      ∧ ∀ moment, s.Compiled store (deeds ++ [.flush moment]) stage := by
  refine ⟨armed_run, armed_steps, fun pauses hne hlong => ?_, fun moment => ?_⟩
  · refine compiled_of_idle ?_
    rw [run_append]
    exact idle_of_pauses timely_run hne hlong
  · exact compiled_of_idle (idle_of_flush moment)

/-- The text of a part that a run compiles last is compiled: at some step of the run its
outcome is noted in the slot, and for a script program and data are what is produced of
the text with the draws there are. After this step the part is compiled no more, and
shows the artifact that was left then. -/
theorem last_attempt_ran (store : DocumentStore σ) (s : Session σ) (deeds : List Deed)
    (stage : Stage) {text : String} (h : (s.attempts store deeds stage).getLast? = some text) :
    ∃ before step after, s.runSteps store deeds = before ++ step :: after
      ∧ let p := s.preview.steps before
        (p.step step).slot stage = (p.prepared stage step).concluded
            (some (p.fixed.outcome p.supply text stage))
          ∧ (stage = .script → (p.step step).stock = (p.stock.prepared step).concluded
            (some (Preview.produce p.settings.limits text p.supply)))
          ∧ ((p.step step).facet stage).attempts stage after = []
          ∧ ((s.run store deeds).preview.slot stage).artifact
            = ((p.step step).slot stage).artifact := by
  obtain ⟨before, step, after, hsteps, hattempt, hnone⟩ := Preview.exists_last_attempt h
  refine ⟨before, step, after, hsteps, ?_, fun hscript => ?_, hnone, ?_⟩
  · rw [Preview.slot_step, Preview.outcome?, hattempt]
    rfl
  · subst hscript
    rw [Preview.stock_step, Preview.sampled?, hattempt]
    rfl
  · rw [preview_run, hsteps, Preview.steps_append, Preview.steps_cons]
    exact Preview.artifact_of_no_attempt hnone

end Runs

end Session

end MockupStudio
