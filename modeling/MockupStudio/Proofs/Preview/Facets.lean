/-
Each part of a preview by itself.

* `Facet`: text, flags and timers of one part; `Preview.facet`;
* `Facet.step`: what a step makes of them, and `Facet.fires`,
  `Facet.attempt?`: the text that it hands over to be saved, and the one that
  it compiles;
* `Preview.facet_step`, `Preview.started_step`: parts do not depend on one
  another, and a preview does what its parts do;
* `Facet.steps`, `Facet.fired`, `Facet.attempts`: the same for many steps.
-/
import MockupStudio.Proofs.Preview.Runs

namespace MockupStudio

open Script

/-- Text, flags and timers of one part. -/
structure Facet where
  text : String
  dirty : Bool
  autoReload : Bool
  compile : Debounce Unit
  save : Rebounce String

/-- One part of a preview. -/
def Preview.facet (p : Preview) (stage : Stage) : Facet where
  text := (p.slot stage).text
  dirty := (p.slot stage).dirty
  autoReload := (p.slot stage).autoReload
  compile := p.compiles.get stage
  save := p.saves.get stage

namespace Facet

/-- The part after its text has been compiled. -/
def compiled (f : Facet) : Facet := { f with dirty := false }

/-- The part after the end of its compile window, or a flush of it. -/
def settled (f : Facet) : Facet :=
  { f with dirty := f.dirty && !f.compile.isPending, compile := f.compile.cancel }

/-- The part after an edit. -/
def edited (now : Nat) (text : String) (f : Facet) : Facet :=
  { f with
    text
    dirty := true
    compile := if f.autoReload then f.compile.call now () else f.compile
    save := (f.save.call now text).2 }

/-- A part after a step. -/
def step (stage : Stage) (f : Facet) : Step → Facet
  | .load _ sources =>
    { f with
      text := sources.get stage
      dirty := false
      compile := f.compile.cancel
      save := f.save.cancel }
  | .edit now s text => if s = stage then f.edited now text else f
  | .compileNow s => if s = stage then { f.compiled with compile := f.compile.cancel } else f
  | .setAutoReload s enabled =>
    if s = stage then
      { f with
        autoReload := enabled
        dirty := f.dirty && !enabled
        compile := f.compile.cancel }
    else f
  | .flush => { f.settled with save := f.save.flush.2 }
  | .expire (.compile s) _ => if s = stage then f.settled else f
  | .expire (.save s) time => if s = stage then { f with save := (f.save.expire time).2 } else f
  | _ => f

/-- The text that a step hands over to be saved. -/
def fires (stage : Stage) (f : Facet) : Step → Option String
  | .edit now s text => if s = stage then (f.save.call now text).1 else none
  | .flush => f.save.flush.1
  | .expire (.save s) time => if s = stage then (f.save.expire time).1 else none
  | _ => none

/-- The text that a step compiles. -/
def attempt? (stage : Stage) (f : Facet) : Step → Option String
  | .load _ sources => some (sources.get stage)
  | .compileNow s => if s = stage then some f.text else none
  | .setAutoReload s enabled => if s = stage ∧ enabled ∧ f.dirty then some f.text else none
  | .flush => if f.compile.isPending then some f.text else none
  | .expire (.compile s) _ => if s = stage ∧ f.compile.isPending then some f.text else none
  | _ => none

end Facet

namespace Preview

/-! ### Compiling -/

section Compiling

variable (p : Preview) (stage t : Stage) (stages : List Stage)

@[simp] lemma facet_publish : p.publish.facet t = p.facet t := rfl

@[simp] lemma facet_deliver : p.deliver.facet t = p.facet t := rfl

/-- A change of a slot that leaves text and switch alone and is no longer
dirty. -/
lemma facet_modifySlot_compiled {f : Slot → Slot} (htext : ∀ slot, (f slot).text = slot.text)
    (hdirty : ∀ slot, (f slot).dirty = false)
    (hreload : ∀ slot, (f slot).autoReload = slot.autoReload) :
    (p.modifySlot stage f).facet t = if stage = t then (p.facet t).compiled else p.facet t := by
  simp only [facet, slot, modifySlot, PerStage.get_modify]
  split <;> simp [Facet.compiled, htext, hdirty, hreload]

/-- The facet and the started saves after a part has been compiled. -/
lemma facet_runStage : (p.runStage stage).2.facet t
    = if stage = t then (p.facet t).compiled else p.facet t := by
  have hok (s : Stage) (artifact : String) : (p.modifySlot s fun slot =>
      slot.begun.applied artifact).facet t = if s = t then (p.facet t).compiled else p.facet t :=
    facet_modifySlot_compiled p s t (fun _ => rfl) (fun _ => rfl) fun _ => rfl
  have herror (s : Stage) (e : StageError) : (p.modifySlot s fun slot =>
      slot.begun.failed e).facet t = if s = t then (p.facet t).compiled else p.facet t :=
    facet_modifySlot_compiled p s t (fun _ => rfl) (fun _ => rfl) fun _ => rfl
  cases stage with
  | markup =>
    simp only [runStage, runSource]
    split
    · exact hok _ _
    · exact herror _ _
  | style =>
    simp only [runStage, runSource]
    split
    · exact hok _ _
    · exact herror _ _
  | script =>
    simp only [runStage, runScript]
    split
    · exact hok _ _
    · exact herror _ _

lemma started_runStage : (p.runStage stage).2.started = p.started := by
  cases stage with
  | markup =>
    simp only [runStage, runSource]
    split <;> rfl
  | style =>
    simp only [runStage, runSource]
    split <;> rfl
  | script =>
    simp only [runStage, runScript]
    split <;> rfl

lemma facet_runStages : (p.runStages stages).2.facet t
    = if t ∈ stages then (p.facet t).compiled else p.facet t := by
  induction stages generalizing p with
  | nil => rfl
  | cons stage stages ih =>
    simp only [runStages]
    rw [ih, facet_runStage]
    by_cases h : stage = t
    · by_cases ht : t ∈ stages <;> simp [h, ht, Facet.compiled]
    · simp [h, Ne.symm h]

lemma started_runStages : (p.runStages stages).2.started = p.started := by
  induction stages generalizing p with
  | nil => rfl
  | cons stage stages ih =>
    simp only [runStages]
    rw [ih, started_runStage]

/-- Compiling parts makes them clean and does nothing else to parts. -/
@[simp] lemma facet_apply : (p.apply stages).facet t
    = if t ∈ stages then (p.facet t).compiled else p.facet t := by
  rw [← facet_runStages, apply]
  obtain ⟨new, q⟩ := p.runStages stages
  cases new <;> rfl

@[simp] lemma started_apply : (p.apply stages).started = p.started := by
  rw [← started_runStages p stages, apply]
  obtain ⟨new, q⟩ := p.runStages stages
  cases new <;> rfl

end Compiling

/-! ### The operations -/

section Operations

variable (p : Preview) (stage t : Stage) (stages : List Stage)

@[simp] lemma facet_start (text : Option String) : (p.start stage text).facet t = p.facet t := rfl

/-- Setting the compile timer of a part. -/
lemma facet_setCompile (d : Debounce Unit) : ({ p with compiles := p.compiles.set stage d }).facet t
    = if stage = t then { p.facet t with compile := d } else p.facet t := by
  simp only [facet, slot, PerStage.get_set]
  split <;> rfl

lemma facet_setSave (r : Rebounce String) : ({ p with saves := p.saves.set stage r }).facet t
    = if stage = t then { p.facet t with save := r } else p.facet t := by
  simp only [facet, slot, PerStage.get_set]
  split <;> rfl

@[simp] lemma facet_cancelCompile : (p.cancelCompile stage).facet t
    = if stage = t then { p.facet t with compile := (p.facet t).compile.cancel }
      else p.facet t := by
  rw [cancelCompile, PerStage.modify, facet_setCompile]
  split
  · next h => rw [h]; rfl
  · rfl

@[simp] lemma started_cancelCompile : (p.cancelCompile stage).started = p.started := rfl

lemma facet_load (name : String) (sources : Sources) :
    (p.load name sources).facet t = (p.facet t).step t (.load name sources) := by
  rw [load, facet_apply, if_pos (Stage.mem_all t)]
  cases t <;> rfl

lemma started_load (name : String) (sources : Sources) :
    (p.load name sources).started = p.started := by
  rw [load, started_apply]
  rfl

lemma facet_modifySlot (f : Slot → Slot) : (p.modifySlot stage f).facet t
    = if stage = t then
        { p.facet t with
          text := (f (p.slot t)).text
          dirty := (f (p.slot t)).dirty
          autoReload := (f (p.slot t)).autoReload }
      else p.facet t := by
  simp only [facet, slot, modifySlot, PerStage.get_modify]
  split <;> rfl

lemma facet_save (now : Nat) (text : String) : (p.save now stage text).facet t
    = if stage = t then { p.facet t with save := ((p.facet t).save.call now text).2 }
      else p.facet t := by
  rw [save, facet_start, facet_setSave]
  split
  · next h => rw [h]; rfl
  · rfl

lemma facet_scheduleCompile (now : Nat) : (p.scheduleCompile now stage).facet t
    = if stage = t then { p.facet t with compile := (p.facet t).compile.call now () }
      else p.facet t := by
  rw [scheduleCompile, PerStage.modify, facet_setCompile]
  split
  · next h => rw [h]; rfl
  · rfl

lemma facet_edit (now : Nat) (text : String) :
    (p.edit now stage text).facet t = (p.facet t).step t (.edit now stage text) := by
  -- the edit and its save, without the compile that may be waiting afterwards
  have hsaved : ((p.modifySlot stage (Slot.edited text)).save now stage text).facet t
      = if stage = t then { p.facet t with
          text, dirty := true, save := ((p.facet t).save.call now text).2 } else p.facet t := by
    rw [facet_save, facet_modifySlot]
    split <;> rfl
  have hreload : (((p.modifySlot stage (Slot.edited text)).save now stage text).slot
      stage).autoReload = (p.facet stage).autoReload := by
    cases stage <;> rfl
  rw [edit]
  rw [hreload, Facet.step]
  split
  · next h =>
    rw [facet_scheduleCompile, hsaved]
    by_cases hs : stage = t
    · subst hs
      simp [Facet.edited, h]
    · simp [hs]
  · next h =>
    rw [hsaved]
    by_cases hs : stage = t
    · subst hs
      simp [Facet.edited, h]
    · simp [hs]

lemma started_edit (now : Nat) (text : String) : (p.edit now stage text).started
    = p.started ++ ((p.facet stage).save.call now text).1.toList.map fun text => (stage, text) := by
  rw [edit]
  split <;> rfl

lemma facet_apply_single : (p.apply [stage]).facet t
    = if stage = t then (p.facet t).compiled else p.facet t := by
  by_cases h : stage = t
  · simp [h]
  · simp [h, Ne.symm h]

lemma compileNow_snd : (p.compileNow stage).2 = (p.cancelCompile stage).apply [stage] := by
  rw [compileNow]
  split <;> rfl

lemma facet_compileNow :
    (p.compileNow stage).2.facet t = (p.facet t).step t (.compileNow stage) := by
  rw [compileNow_snd, facet_apply_single, facet_cancelCompile, Facet.step]
  split <;> rfl

lemma started_compileNow : (p.compileNow stage).2.started = p.started := by
  rw [compileNow_snd, started_apply, started_cancelCompile]

lemma facet_refreshSample : p.refreshSample.2.facet t = p.facet t := by
  have hrefreshed (slot : Slot) : (refreshed slot).text = slot.text
      ∧ (refreshed slot).dirty = slot.dirty ∧ (refreshed slot).autoReload = slot.autoReload := by
    rw [refreshed]
    split <;> exact ⟨rfl, rfl, rfl⟩
  rw [refreshSample]
  split
  · rfl
  · split
    · rw [facet_deliver, facet_publish, facet_modifySlot]
      simp only [hrefreshed]
      split <;> rfl
    · dsimp only
      rw [facet_publish, facet_modifySlot]
      split <;> rfl

lemma started_refreshSample : p.refreshSample.2.started = p.started := by
  rw [refreshSample]
  split
  · rfl
  · split <;> rfl

lemma facet_setAutoReload (enabled : Bool) : (p.setAutoReload stage enabled).facet t
    = (p.facet t).step t (.setAutoReload stage enabled) := by
  have hswitched : ((p.modifySlot stage fun slot => { slot with autoReload := enabled }).cancelCompile
      stage).facet t = if stage = t then { p.facet t with
        autoReload := enabled, compile := (p.facet t).compile.cancel } else p.facet t := by
    rw [facet_cancelCompile, facet_modifySlot]
    split <;> rfl
  rw [setAutoReload]
  rw [Facet.step]
  split
  · next h =>
    rw [facet_apply_single, hswitched]
    by_cases hs : stage = t
    · subst hs
      simp_all [Facet.compiled]
    · simp [hs]
  · next h =>
    rw [hswitched]
    by_cases hs : stage = t
    · subst hs
      cases enabled <;> simp_all [facet]
    · simp [hs]

lemma started_setAutoReload (enabled : Bool) :
    (p.setAutoReload stage enabled).started = p.started := by
  rw [setAutoReload]
  split
  · rw [started_apply]
    rfl
  · rfl

/-- What the end of a compile window does, and a flush of it. -/
lemma facet_compileFired : (p.compileFired stage (p.compiles.get stage).flush).facet t
    = if stage = t then (p.facet t).settled else p.facet t := by
  have hpending : (p.compiles.get stage).flush.1.isSome = (p.facet stage).compile.isPending := by
    simp [Debounce.flush, Debounce.isPending, facet]
  have hset : ({ p with compiles := p.compiles.set stage (p.compiles.get stage).flush.2 }).facet t
      = if stage = t then { p.facet t with compile := (p.facet t).compile.cancel }
        else p.facet t := by
    rw [facet_setCompile]
    split
    · next h => rw [h]; rfl
    · rfl
  rw [compileFired, hpending]
  by_cases hs : stage = t
  · subst hs
    split
    · next h => simp [hset, Facet.settled, Facet.compiled, h]
    · next h => simp [hset, Facet.settled, h]
  · split
    · rw [facet_apply_single, hset, if_neg hs, if_neg hs]
    · rw [hset, if_neg hs]

lemma started_compileFired (fired : Option Unit × Debounce Unit) :
    (p.compileFired stage fired).started = p.started := by
  rw [compileFired]
  split
  · rw [started_apply]
  · rfl

lemma facet_saveFired (fired : Option String × Rebounce String) : (p.saveFired stage fired).facet t
    = if stage = t then { p.facet t with save := fired.2 } else p.facet t := by
  rw [saveFired, facet_start, facet_setSave]

lemma started_saveFired (fired : Option String × Rebounce String) :
    (p.saveFired stage fired).started
      = p.started ++ fired.1.toList.map fun text => (stage, text) := rfl

/-- Flushing compiles goes through the parts once. -/
lemma facet_flushCompiles :
    (Stage.all.foldl flushCompile p).facet t = (p.facet t).settled := by
  simp only [Stage.all, List.foldl_cons, List.foldl_nil, flushCompile, facet_compileFired]
  cases t <;> simp

lemma facet_flush : p.flush.facet t = (p.facet t).step t .flush := by
  change _ = { (p.facet t).settled with save := (p.facet t).settled.save.flush.2 }
  rw [flush, ← facet_flushCompiles]
  generalize Stage.all.foldl flushCompile p = q
  simp only [Stage.all, List.foldl_cons, List.foldl_nil, flushSave, facet_saveFired]
  cases t <;> simp [facet, slot, saveFired, start]

/-- Flushing hands over what is waiting, part by part. -/
lemma started_flush : p.flush.started = p.started ++ Stage.all.flatMap fun stage =>
    (p.facet stage).save.flush.1.toList.map fun text => (stage, text) := by
  have hcompiles : (Stage.all.foldl flushCompile p).started = p.started := by
    simp only [Stage.all, List.foldl_cons, List.foldl_nil, flushCompile, started_compileFired]
  have hsaves (stage : Stage) : ((Stage.all.foldl flushCompile p).saves.get stage)
      = (p.facet stage).save := congrArg Facet.save (facet_flushCompiles p stage)
  rw [flush, ← hcompiles]
  simp only [← hsaves]
  generalize Stage.all.foldl flushCompile p = q
  simp only [Stage.all, List.foldl_cons, List.foldl_nil, flushSave, started_saveFired,
    List.flatMap_cons, List.flatMap_nil, List.append_nil, List.append_assoc]
  rfl

end Operations

/-! ### Steps -/

/-- The texts of a part among some saves. -/
def textsOf (stage : Stage) (saves : List (Stage × String)) : List String :=
  saves.filterMap fun save => if save.1 = stage then some save.2 else none

@[simp] lemma textsOf_append (stage : Stage) (saves more : List (Stage × String)) :
    textsOf stage (saves ++ more) = textsOf stage saves ++ textsOf stage more :=
  List.filterMap_append

lemma textsOf_start (stage t : Stage) (text : Option String) :
    textsOf t (text.toList.map fun text => (stage, text))
      = (if stage = t then text else none).toList := by
  by_cases h : stage = t <;> cases text <;> simp [textsOf, h]

/-- The parts of a preview do not depend on one another. -/
theorem facet_step (p : Preview) (step : Step) (t : Stage) :
    (p.step step).facet t = (p.facet t).step t step := by
  cases step with
  | load name sources => exact facet_load p t name sources
  | edit now stage text => exact facet_edit p stage t now text
  | compileNow stage => exact facet_compileNow p stage t
  | refreshSample => exact facet_refreshSample p t
  | setAutoReload stage enabled => exact facet_setAutoReload p stage t enabled
  | attach consumer =>
    rw [Preview.step, attach]
    split <;> rfl
  | rename name => rfl
  | flush => exact facet_flush p t
  | takeNotices => rfl
  | expire alarm time =>
    cases alarm with
    | compile stage => exact facet_compileFired p stage t
    | save stage =>
      rw [Preview.step, expire, facet_saveFired, Facet.step]
      split
      · next h => rw [h]; rfl
      · rfl
  | handOver => rfl
  | saved outcome => cases outcome <;> rfl

/-- What a step starts to save, a preview being handed over apart. -/
theorem started_step (p : Preview) {step : Step} (h : step ≠ .handOver) (t : Stage) :
    textsOf t (p.step step).started
      = textsOf t p.started ++ ((p.facet t).fires t step).toList := by
  have hsame {q : Preview} (hq : q.started = p.started) :
      textsOf t q.started = textsOf t p.started ++ (none : Option String).toList := by
    rw [hq, Option.toList_none, List.append_nil]
  cases step with
  | load name sources => exact hsame (started_load p name sources)
  | edit now stage text =>
    rw [Preview.step, started_edit, textsOf_append, textsOf_start, Facet.fires]
    by_cases hs : stage = t <;> simp [hs]
  | compileNow stage => exact hsame (started_compileNow p stage)
  | refreshSample => exact hsame (started_refreshSample p)
  | setAutoReload stage enabled => exact hsame (started_setAutoReload p stage enabled)
  | attach consumer =>
    refine hsame ?_
    rw [Preview.step, attach]
    split <;> rfl
  | rename name => exact hsame rfl
  | flush =>
    rw [Preview.step, started_flush, textsOf_append, Facet.fires]
    cases t <;> simp [Stage.all, textsOf_start]
  | takeNotices => exact hsame rfl
  | expire alarm time =>
    cases alarm with
    | compile stage => exact hsame (started_compileFired p stage _)
    | save stage =>
      rw [Preview.step, expire, started_saveFired, textsOf_append, textsOf_start, Facet.fires]
      split
      · next hs => rw [hs]; rfl
      · rfl
  | handOver => exact absurd rfl h
  | saved outcome =>
    refine hsame ?_
    cases outcome <;> rfl

end Preview

/-! ### Many steps -/

namespace Facet

/-- A part after some steps. -/
def steps (stage : Stage) (f : Facet) (taken : List Step) : Facet := taken.foldl (step stage) f

/-- The texts that some steps hand over to be saved, one after the other. -/
def fired (stage : Stage) : Facet → List Step → List String
  | _, [] => []
  | f, s :: taken => (f.fires stage s).toList ++ fired stage (f.step stage s) taken

/-- The texts that some steps compile, one after the other. -/
def attempts (stage : Stage) : Facet → List Step → List String
  | _, [] => []
  | f, s :: taken => (f.attempt? stage s).toList ++ attempts stage (f.step stage s) taken

@[simp] lemma steps_nil (stage : Stage) (f : Facet) : f.steps stage [] = f := rfl

@[simp] lemma steps_cons (stage : Stage) (f : Facet) (s : Step) (taken : List Step) :
    f.steps stage (s :: taken) = (f.step stage s).steps stage taken := rfl

@[simp] lemma steps_append (stage : Stage) (f : Facet) (taken more : List Step) :
    f.steps stage (taken ++ more) = (f.steps stage taken).steps stage more := List.foldl_append

/-- What every step keeps holds after any number of steps. -/
lemma steps_induction {stage : Stage} {I : Facet → Prop} {f : Facet} (hf : I f)
    {taken : List Step} (h : ∀ g, ∀ s ∈ taken, I g → I (g.step stage s)) :
    I (f.steps stage taken) := by
  induction taken generalizing f with
  | nil => exact hf
  | cons s taken ih =>
    exact ih (h f s List.mem_cons_self hf) fun g t ht => h g t (List.mem_cons_of_mem _ ht)

end Facet

lemma Preview.facet_steps (p : Preview) (taken : List Step) (stage : Stage) :
    (p.steps taken).facet stage = (p.facet stage).steps stage taken := by
  induction taken generalizing p with
  | nil => rfl
  | cons s taken ih => rw [Preview.steps_cons, ih, Preview.facet_step, Facet.steps_cons]

end MockupStudio
