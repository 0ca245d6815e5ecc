/-
Saves that fail do not disturb the editor.

* `Preview.unnoted`: a preview but for its notices and the saves it has started;
  `Preview.unnoted_step` says that a step needs nothing else;
* `Step.isStorage`: the steps that say how saves went; the others determine the
  preview but for notices (`Preview.unnoted_steps_eq`);
* `Preview.steps_parts`: a flush is done part by part;
* `Session.InStep`: two sessions, each with its own store, that are at the same
  time and show the same; `Session.InStep.run` says that they stay so;
* `Session.undisturbed`: all runs, and all ways of saves to end in between.
-/
import MockupStudio.Proofs.Preview.Notices
import MockupStudio.Proofs.Preview.Windows
import MockupStudio.Store.Memory
import Mathlib

namespace MockupStudio

open Script

/-- Whether a step says how saves went. -/
def Step.isStorage : Step → Bool
  | .handOver | .saved _ => true
  | _ => false

/-- The steps that a step consists of: in a flush compiles come one after the other,
and saves last. -/
def Step.parts : Step → List Step
  | .flush => Stage.all.map (fun stage => .expire (.compile stage) 0) ++ [.flush]
  | step => [step]

/-- The steps apart from those that say how saves went. -/
def withoutStorage (taken : List Step) : List Step := taken.filter fun step => !step.isStorage

lemma withoutStorage_append (taken more : List Step) :
    withoutStorage (taken ++ more) = withoutStorage taken ++ withoutStorage more :=
  List.filter_append ..

namespace Preview

/-- A preview but for its notices and the saves it has started. -/
def unnoted (p : Preview) : Preview := { p with notices := [], started := [] }

section Unnoted

variable {p q : Preview}

/-! ### Compiling -/

lemma runStage_unnoted (p : Preview) (stage : Stage) :
    p.unnoted.runStage stage = ((p.runStage stage).1, (p.runStage stage).2.unnoted) := by
  cases stage <;> simp only [runStage, runSource, runScript, unnoted, slot] <;> split <;> rfl

lemma runStages_unnoted (p : Preview) (stages : List Stage) :
    p.unnoted.runStages stages = ((p.runStages stages).1, (p.runStages stages).2.unnoted) := by
  induction stages generalizing p with
  | nil => rfl
  | cons stage stages ih =>
    simp only [runStages]
    rw [runStage_unnoted, ih]

lemma unnoted_apply (p : Preview) (stages : List Stage) :
    (p.apply stages).unnoted = (p.unnoted.apply stages).unnoted := by
  rw [apply_eq_if, apply_eq_if, runStages_unnoted]
  dsimp only
  split <;> rfl

lemma unnoted_compileFired (p : Preview) (stage : Stage) (fired : Option Unit × Debounce Unit) :
    (p.compileFired stage fired).unnoted = (p.unnoted.compileFired stage fired).unnoted := by
  rw [compileFired, compileFired]
  split
  · exact unnoted_apply _ [stage]
  · rfl

lemma unnoted_flushCompiles (p : Preview) (stages : List Stage) :
    (stages.foldl flushCompile p).unnoted = (stages.foldl flushCompile p.unnoted).unnoted := by
  have hstage (p : Preview) (stage : Stage) :
      (p.flushCompile stage).unnoted = (p.unnoted.flushCompile stage).unnoted :=
    unnoted_compileFired p stage _
  induction stages generalizing p with
  | nil => rfl
  | cons stage stages ih =>
    rw [List.foldl_cons, List.foldl_cons, ih, hstage, ← ih]

lemma unnoted_refreshSample (p : Preview) :
    p.refreshSample.2.unnoted = p.unnoted.refreshSample.2.unnoted := by
  have hprogram : p.unnoted.program = p.program := rfl
  have hsupply : p.unnoted.supply = p.supply := rfl
  rw [refreshSample, refreshSample, hprogram, hsupply]
  cases p.program with
  | none => rfl
  | some program =>
    dsimp only
    cases program.sample p.supply <;> rfl

/-! ### Steps -/

/-- A step makes the same of a preview whatever notices and started saves there
are. -/
theorem unnoted_step (p : Preview) (step : Step) :
    (p.step step).unnoted = (p.unnoted.step step).unnoted := by
  cases step with
  | load name sources => exact unnoted_apply _ Stage.all
  | edit now stage text =>
    let edited := (p.modifySlot stage (Slot.edited text)).save now stage text
    change (if (edited.slot stage).autoReload then edited.scheduleCompile now stage
      else edited).unnoted = (p.unnoted.edit now stage text).unnoted
    rw [edit]
    change _ = (if (edited.slot stage).autoReload then _ else _ : Preview).unnoted
    split <;> rfl
  | compileNow stage =>
    rw [Preview.step, Preview.step, compileNow_snd, compileNow_snd]
    exact unnoted_apply _ [stage]
  | refreshSample => exact unnoted_refreshSample p
  | setAutoReload stage enabled =>
    rw [Preview.step, Preview.step, setAutoReload, setAutoReload]
    change _ = (if (enabled && (p.slot stage).dirty) = true then _ else _ : Preview).unnoted
    split
    · exact unnoted_apply _ [stage]
    · rfl
  | attach consumer =>
    rw [Preview.step, Preview.step, attach, attach]
    change _ = (if p.hasData = true then _ else _ : Delivery × Preview).2.unnoted
    split <;> rfl
  | flush =>
    have hsaves (p : Preview) : (Stage.all.foldl flushSave p).unnoted
        = (Stage.all.foldl flushSave p.unnoted).unnoted := rfl
    rw [Preview.step, Preview.step, flush, flush, hsaves, unnoted_flushCompiles, ← hsaves]
  | expire alarm time =>
    cases alarm with
    | compile stage => exact unnoted_compileFired p stage _
    | save stage => rfl
  | saved outcome => cases outcome <;> rfl
  | _ => rfl

lemma unnoted_step_congr (h : p.unnoted = q.unnoted) (step : Step) :
    (p.step step).unnoted = (q.step step).unnoted := by
  rw [unnoted_step p, unnoted_step q, h]

/-- A step that says how saves went changes nothing else. -/
lemma unnoted_step_of_isStorage {step : Step} (h : step.isStorage) :
    (p.step step).unnoted = p.unnoted := by
  cases step with
  | handOver => rfl
  | saved outcome => cases outcome <;> rfl
  | _ => cases h

lemma unnoted_steps_congr (h : p.unnoted = q.unnoted) (taken : List Step) :
    (p.steps taken).unnoted = (q.steps taken).unnoted := by
  induction taken generalizing p q with
  | nil => exact h
  | cons step taken ih => exact ih (unnoted_step_congr h step)

lemma unnoted_steps_withoutStorage (p : Preview) (taken : List Step) :
    (p.steps (withoutStorage taken)).unnoted = (p.steps taken).unnoted := by
  induction taken generalizing p with
  | nil => rfl
  | cons step taken ih =>
    rw [withoutStorage, List.filter_cons, steps_cons]
    cases hstorage : step.isStorage with
    | true => exact (unnoted_steps_congr (unnoted_step_of_isStorage hstorage).symm _).trans (ih _)
    | false => exact ih _

/-- Whatever saves come to and whenever they end, the other steps determine the
preview, but for notices and started saves. -/
theorem unnoted_steps_eq (h : p.unnoted = q.unnoted) {taken taken' : List Step}
    (hsame : withoutStorage taken = withoutStorage taken') :
    (p.steps taken).unnoted = (q.steps taken').unnoted :=
  calc (p.steps taken).unnoted = (p.steps (withoutStorage taken)).unnoted :=
        (unnoted_steps_withoutStorage p taken).symm
    _ = (q.steps (withoutStorage taken')).unnoted := hsame ▸ unnoted_steps_congr h _
    _ = (q.steps taken').unnoted := unnoted_steps_withoutStorage q taken'

end Unnoted

/-! ### The parts of a flush -/

/-- Nothing happens where no compile is waiting. -/
lemma flushCompile_of_idle {p : Preview} {stage : Stage}
    (h : (p.facet stage).compile.isPending = false) : p.flushCompile stage = p := by
  have hcancel : (p.compiles.get stage).cancel = p.compiles.get stage := by
    have hnone : (p.compiles.get stage).pending = none := by
      rw [← Option.not_isSome_iff_eq_none]
      exact Bool.eq_false_iff.mp h
    rw [Debounce.cancel, ← hnone]
  have hcompiles : p.compiles.modify stage Debounce.cancel = p.compiles := by
    refine PerStage.ext_get fun t => ?_
    rw [PerStage.get_modify]
    split
    · next ht => rw [← ht, hcancel]
    · rfl
  rw [flushCompile_eq, if_neg (by rw [h]; exact Bool.false_ne_true), cancelCompile, hcompiles]

/-- After its compiles a flush has only saves left. -/
lemma flush_flushCompiles (p : Preview) : (Stage.all.foldl flushCompile p).flush = p.flush := by
  have hidle (stage : Stage) :
      (Stage.all.foldl flushCompile p).flushCompile stage = Stage.all.foldl flushCompile p := by
    refine flushCompile_of_idle ?_
    rw [facet_flushCompiles]
    rfl
  have hagain : Stage.all.foldl flushCompile (Stage.all.foldl flushCompile p)
      = Stage.all.foldl flushCompile p := List.foldl_fixed' hidle Stage.all
  rw [flush, flush, hagain]

/-- A flush is done part by part. -/
lemma steps_parts (p : Preview) (taken : List Step) :
    p.steps (taken.flatMap Step.parts) = p.steps taken := by
  have hparts (p : Preview) (step : Step) : p.steps step.parts = p.step step := by
    cases step with
    | flush => exact flush_flushCompiles p
    | _ => rfl
  induction taken generalizing p with
  | nil => rfl
  | cons step taken ih => rw [List.flatMap_cons, steps_append, hparts, ih, steps_cons]

end Preview

/-- Whether a deed needs nothing of the store but saves of edits. -/
def Deed.isLocal : Deed → Bool
  | .openDocument | .rename .. | .save _ => false
  | _ => true

namespace Session

variable {σ τ : Type} (store : DocumentStore σ) (store' : DocumentStore τ) (moment : Timestamp)
  {s : Session σ} {t : Session τ}

/-! ### Two sessions -/

/-- Two sessions are at the same time, and their previews are the same but for
notices and started saves. -/
structure InStep (s : Session σ) (t : Session τ) : Prop where
  preview : s.preview.unnoted = t.preview.unnoted
  now : s.now = t.now

lemma withoutStorage_carrySteps (s : Session σ) :
    withoutStorage (s.carrySteps store moment) = [] := by
  refine List.filter_eq_nil_iff.mpr fun step hstep => ?_
  rcases carry_cases hstep with rfl | ⟨outcome, rfl⟩ <;> exact fun h => nomatch h

lemma unnoted_carryOut (s : Session σ) :
    (s.carryOut store moment).preview.unnoted = s.preview.unnoted := by
  rw [preview_carryOut]
  have hnone : withoutStorage (s.carrySteps store moment) = withoutStorage [] :=
    withoutStorage_carrySteps store moment s
  exact Preview.unnoted_steps_eq rfl hnone

lemma InStep.modify (h : InStep s t) (step : Step) :
    InStep (s.modify (·.step step)) (t.modify (·.step step)) :=
  ⟨Preview.unnoted_step_congr h.preview step, h.now⟩

lemma InStep.carryOut (h : InStep s t) :
    InStep (s.carryOut store moment) (t.carryOut store' moment) where
  preview := by rw [unnoted_carryOut, unnoted_carryOut, h.preview]
  now := by rw [now_carryOut, now_carryOut, h.now]

lemma InStep.reach (h : InStep s t) (time : Nat) :
    InStep (s.reach store moment time) (t.reach store' moment time) := by
  rw [Session.reach, Session.reach, h.now]
  split
  · exact ⟨(h.carryOut store store' moment).preview, rfl⟩
  · exact h

lemma withoutStorage_reachSteps (time : Nat) (s : Session σ) :
    withoutStorage (s.reachSteps store moment time) = [] := by
  rw [reachSteps]
  split
  · exact withoutStorage_carrySteps store moment s
  · rfl

/-- The same windows end at the same times. -/
lemma InStep.runUntil (h : InStep s t) (time ends : Nat) :
    InStep (runUntil store moment time ends s) (runUntil store' moment time ends t)
      ∧ withoutStorage (untilSteps store moment time ends s)
        = withoutStorage (untilSteps store' moment time ends t) := by
  induction ends generalizing s t with
  | zero => exact ⟨h, rfl⟩
  | succ ends ih =>
    have hnext : s.preview.unnoted.next? = t.preview.unnoted.next? :=
      congrArg Preview.next? h.preview
    change s.preview.next? = t.preview.next? at hnext
    rw [Session.runUntil, Session.runUntil, untilSteps, untilSteps, hnext]
    cases t.preview.next? with
    | none => exact ⟨h, rfl⟩
    | some first =>
      obtain ⟨due, alarm⟩ := first
      dsimp only
      split
      · obtain ⟨hrun, hsteps⟩ := ih ((h.reach store store' moment due).modify (.expire alarm due))
        refine ⟨hrun, ?_⟩
        rw [withoutStorage_append, withoutStorage_append, withoutStorage_reachSteps,
          withoutStorage_reachSteps]
        exact congrArg (.expire alarm due :: ·) hsteps
      · exact ⟨h, rfl⟩

lemma InStep.advance (h : InStep s t) (span : Nat) :
    InStep (s.advance store moment span) (t.advance store' moment span)
      ∧ withoutStorage (s.steps store (.advance moment span))
        = withoutStorage (t.steps store' (.advance moment span)) := by
  have hweight : s.preview.unnoted.weight = t.preview.unnoted.weight :=
    congrArg Preview.weight h.preview
  change s.preview.weight = t.preview.weight at hweight
  obtain ⟨hrun, hsteps⟩ :=
    h.runUntil store store' moment (t.now + span) t.preview.weight
  refine ⟨?_, ?_⟩
  · rw [Session.advance, Session.advance, h.now, hweight]
    exact ⟨(hrun.carryOut store store' moment).preview, rfl⟩
  · rw [steps, steps, withoutStorage_append, withoutStorage_append, withoutStorage_carrySteps,
      withoutStorage_carrySteps, h.now, hweight, hsteps]

/-- A deed that needs nothing of the store but saves comes to the same, apart from how
the saves went. -/
lemma InStep.perform (h : InStep s t) {deed : Deed} (hdeed : deed.isLocal) :
    InStep (s.perform store deed) (t.perform store' deed)
      ∧ withoutStorage (s.steps store deed) = withoutStorage (t.steps store' deed) := by
  cases deed with
  | load name sources => exact ⟨h.modify (.load name sources), rfl⟩
  | edit stage text =>
    rw [Session.perform, Session.perform, steps, steps, h.now]
    exact ⟨h.modify (.edit t.now stage text), rfl⟩
  | compileNow stage => exact ⟨h.modify (.compileNow stage), rfl⟩
  | refreshSample => exact ⟨h.modify .refreshSample, rfl⟩
  | setAutoReload stage enabled => exact ⟨h.modify (.setAutoReload stage enabled), rfl⟩
  | attach consumer => exact ⟨h.modify (.attach consumer), rfl⟩
  | takeNotices => exact ⟨h.modify .takeNotices, rfl⟩
  | flush moment =>
    have hcarried := (withoutStorage_carrySteps store moment (s.modify Preview.flush)).trans
      (withoutStorage_carrySteps store' moment (t.modify Preview.flush)).symm
    exact ⟨(h.modify .flush).carryOut store store' moment, congrArg (Step.flush :: ·) hcarried⟩
  | advance moment span => exact h.advance store store' moment span
  | openDocument | rename | save => cases hdeed

/-- Two sessions stay in step, whatever their stores answer. -/
theorem InStep.run (h : InStep s t) {deeds : List Deed} (hdeeds : ∀ deed ∈ deeds, deed.isLocal) :
    InStep (s.run store deeds) (t.run store' deeds)
      ∧ withoutStorage (s.runSteps store deeds) = withoutStorage (t.runSteps store' deeds) := by
  induction deeds generalizing s t with
  | nil => exact ⟨h, rfl⟩
  | cons deed deeds ih =>
    obtain ⟨hdeed, hdeeds⟩ := List.forall_mem_cons.mp hdeeds
    obtain ⟨hperform, hsteps⟩ := h.perform store store' hdeed
    obtain ⟨hrun, hrest⟩ := ih hperform hdeeds
    refine ⟨hrun, ?_⟩
    rw [runSteps, runSteps, withoutStorage_append, withoutStorage_append, hsteps, hrest]

/-- Two sessions that begin alike stay in step, and the same happens in them, saves
apart, whatever their stores answer. This does not depend on when saves end: whatever
they come to and wherever they are put between the other steps, those determine the
preview but for notices, part by part of every flush. The notices that were given
back and those that are left are just what was noted: one for each save that failed,
and one for each consumer that failed to set itself up, in their order. -/
theorem undisturbed (store : DocumentStore σ) (store' : DocumentStore τ) (id : String)
    (settings : Settings) (supply : Supply) (markup style : Compiler) (contents : σ)
    (contents' : τ) (now : Nat) {deeds : List Deed} (hdeeds : ∀ deed ∈ deeds, deed.isLocal) :
    let s := begin id settings supply markup style contents now
    let t := begin id settings supply markup style contents' now
    InStep (s.run store deeds) (t.run store' deeds)
      ∧ withoutStorage (s.runSteps store deeds) = withoutStorage (t.runSteps store' deeds)
      ∧ s.preview.allReturned (s.runSteps store deeds) ++ (s.run store deeds).preview.notices
        = s.preview.allNoted (s.runSteps store deeds)
      ∧ ∀ taken,
        (∀ taken', withoutStorage taken = withoutStorage taken' →
          (s.preview.steps taken).unnoted = (s.preview.steps taken').unnoted)
        ∧ s.preview.allReturned taken ++ (s.preview.steps taken).notices
          = s.preview.allNoted taken
        ∧ s.preview.steps (taken.flatMap Step.parts) = s.preview.steps taken := by
  intro s t
  have hbegin : InStep s t := ⟨rfl, rfl⟩
  obtain ⟨hrun, hsteps⟩ := hbegin.run store store' hdeeds
  have hnoted (taken : List Step) : s.preview.allReturned taken ++ (s.preview.steps taken).notices
      = s.preview.allNoted taken := s.preview.returned_append_notices taken
  refine ⟨hrun, hsteps, ?_, fun taken => ⟨fun taken' => Preview.unnoted_steps_eq rfl, hnoted taken,
    s.preview.steps_parts taken⟩⟩
  rw [preview_run]
  exact hnoted _

/-- A session whose document is on a shelf, or on none. -/
def draftSession (shelf : Shelf) : Session Shelf := begin "draft" {} default .ok .ok shelf 0

/-- A consumer that is to be set up once; a second time it refuses and forgets its state. -/
def onceOnly : Consumer where
  setup := .remembering (fun before state =>
    if before then (.refused "set up before", true, []) else (.ready, true, state)) false []

/-- The script is edited twice while that consumer is there, and then someone asks what
went wrong. -/
def draftDeeds : List Deed :=
  [.attach onceOnly, .edit .script "return 1;", .advance default 5000,
    .edit .script "return 2;", .advance default 5000, .takeNotices]

/-- A save that fails before the script is compiled. -/
def failedEarly : List Step :=
  [.attach onceOnly, .edit 0 .script "return 1;", .handOver, .saved (.error (.notFound "draft")),
    .flush]

/-- The same, but that the save succeeds, and only in the end. -/
def savedLate : List Step :=
  [.attach onceOnly, .edit 0 .script "return 1;", .flush, .handOver, .saved (.ok ())]

/-- Editing a document that is not on the shelf is like editing one that is, apart from
what is noted: the two saves that failed, and the setup that was refused. When a save ends,
and how, leaves the rest as it is. -/
theorem undisturbed_draft : (∀ deed ∈ draftDeeds, deed.isLocal) ∧
    let s := draftSession []
    let t := draftSession [("draft", ⟨"draft", "Draft", default, ⟨"", "", ""⟩⟩)]
    InStep (s.run Shelf.store draftDeeds) (t.run Shelf.store draftDeeds)
      ∧ withoutStorage (s.runSteps Shelf.store draftDeeds)
        = withoutStorage (t.runSteps Shelf.store draftDeeds)
      ∧ s.preview.allReturned (s.runSteps Shelf.store draftDeeds)
          ++ (s.run Shelf.store draftDeeds).preview.notices
        = [.store (.notFound "draft"), .store (.notFound "draft"), .consumer "set up before"]
      ∧ withoutStorage failedEarly = withoutStorage savedLate
      ∧ (s.preview.steps failedEarly).unnoted = (s.preview.steps savedLate).unnoted
      ∧ s.preview.allReturned failedEarly ++ (s.preview.steps failedEarly).notices
        = [.store (.notFound "draft")]
      ∧ s.preview.steps (failedEarly.flatMap Step.parts) = s.preview.steps failedEarly := by
  have hdeeds : ∀ deed ∈ draftDeeds, deed.isLocal := by decide
  refine ⟨hdeeds, ?_⟩
  intro s t
  obtain ⟨hrun, hsteps, hnotices, hplaced⟩ :=
    undisturbed Shelf.store Shelf.store _ _ _ _ _ _ _ _ hdeeds
  obtain ⟨hunnoted, hearly, hparts⟩ := hplaced failedEarly
  have hnoted : s.preview.allNoted (s.runSteps Shelf.store draftDeeds)
      = [.store (.notFound "draft"), .store (.notFound "draft"), .consumer "set up before"] := by
    cbv
  have hnotedEarly : s.preview.allNoted failedEarly = [.store (.notFound "draft")] := by cbv
  exact ⟨hrun, hsteps, hnotices.trans hnoted, rfl, hunnoted savedLate rfl,
    hearly.trans hnotedEarly, hparts⟩

end Session

end MockupStudio
