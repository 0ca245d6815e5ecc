/-
What a step makes of slots and data.

* `Preview.outcome?`, `Preview.sampled?`: what comes of the text of a part that
  a step compiles, and of the sample that it takes;
* `Preview.prepared`, `Stock.prepared`: what a step does to a slot, and to
  program and data, apart from that;
* `Slot.concluded`, `Stock.concluded`: an outcome is noted;
* `Preview.slot_step`, `Preview.stock_step`: a step does just this;
* `Preview.script_compiled`, `Preview.script_refused`: what it does to a script
  that is compiled; `Preview.sample_given`, `Preview.sample_refused`: to one of
  which another sample is asked for.
-/
import MockupStudio.Proofs.Preview.Artifacts

namespace MockupStudio

open Script

/-! ### Outcomes are noted -/

/-- Notes what has come of compiling, if anything was compiled. -/
def Slot.concluded (slot : Slot) : Option (Except StageError String) → Slot
  | none => slot
  | some (.ok artifact) => slot.begun.applied artifact
  | some (.error e) => slot.begun.failed e

/-- What comes of taking a sample: a program with its data, or an error. -/
abbrev Sampled := EStateM.Result ScriptError Supply (Program × Json)

/-- The program and the data of a sample, if there was no error. -/
def Sampled.yield? : Sampled → Option (Program × Json)
  | .ok made _ => some made
  | .error .. => none

/-- The program in use, its last sample, and where the next one takes its draws
from. -/
structure Stock where
  program : Option Program
  data : Json
  hasData : Bool
  supply : Supply

/-- Notes what has come of taking a sample, if one was taken. -/
def Stock.concluded (stock : Stock) : Option Sampled → Stock
  | none => stock
  | some (.ok (program, data) supply) => ⟨some program, data, true, supply⟩
  | some (.error _ supply) => { stock with supply }

/-- A step apart from samples: a load does away with program and data. -/
def Stock.prepared (stock : Stock) : Step → Stock
  | .load .. => { stock with program := none, data := .null, hasData := false }
  | _ => stock

lemma Stage.nodup_all : Stage.all.Nodup := by decide

lemma Stage.nodup_singleton (stage : Stage) : [stage].Nodup := List.pairwise_singleton _ stage

namespace Preview

/-- The program in use with its data. -/
def stock (p : Preview) : Stock := ⟨p.program, p.data, p.hasData, p.supply⟩

/-- What comes of the text of a part that a step compiles. -/
def outcome? (p : Preview) (stage : Stage) (step : Step) : Option (Except StageError String) :=
  ((p.facet stage).attempt? stage step).map fun text => p.fixed.outcome p.supply text stage

/-- A script that gives a sample compiles. -/
lemma compile_of_sample {limits : Limits} {text : String} {program : Program} {data : Json}
    {supply supply' : Supply} (hread : Program.read limits text = .ok program)
    (hsample : program.sample supply = .ok data supply') :
    Program.compile limits text = .ok program := by
  rw [Program.sample] at hsample
  rw [Program.compile, hread]
  cases hinvoke : program.invoke with
  | ok v => simp only [hinvoke]
  | error e =>
    rw [hinvoke] at hsample
    cases hsample

lemma produce_of_sample {limits : Limits} {text : String} {program : Program} {data : Json}
    {supply supply' : Supply} (hcompile : Program.compile limits text = .ok program)
    (hsample : program.sample supply = .ok data supply') :
    produce limits text supply = .ok (program, data) supply' := by
  rw [produce, hcompile]
  simp only [hsample]

/-- Another sample of a program. -/
def again (program : Program) : Sampling (Program × Json) := fun supply =>
  match program.sample supply with
  | .ok data supply => .ok (program, data) supply
  | .error e supply => .error e supply

/-- What a script gives is its program with a sample of it. -/
lemma produce_ok {limits : Limits} {text : String} {program : Program} {data : Json}
    {supply supply' : Supply} (h : produce limits text supply = .ok (program, data) supply') :
    Program.compile limits text = .ok program ∧ program.sample supply = .ok data supply' := by
  rw [produce] at h
  split at h
  · cases h
  · next hcompile =>
    split at h
    · next hsample =>
      cases h
      exact ⟨hcompile, hsample⟩
    · cases h

lemma again_ok {program program' : Program} {data : Json} {supply supply' : Supply}
    (h : again program supply = .ok (program', data) supply') :
    program' = program ∧ program.sample supply = .ok data supply' := by
  rw [again] at h
  split at h
  · next hsample =>
    cases h
    exact ⟨rfl, hsample⟩
  · cases h

/-- What comes of another sample of the program in use, if there is one. -/
def resample? (p : Preview) : Option Sampled := p.program.map fun program => again program p.supply

/-- What comes of the sample that a step asks for. -/
def asked? (p : Preview) : Step → Option Sampled
  | .refreshSample => p.resample?
  | _ => none

lemma exists_of_asked? {p : Preview} {step : Step} {sampled : Sampled}
    (h : p.asked? step = some sampled) : ∃ program, step = .refreshSample
      ∧ p.program = some program ∧ again program p.supply = sampled := by
  cases step with
  | refreshSample =>
    obtain ⟨program, hprogram, hagain⟩ := Option.map_eq_some_iff.mp h
    exact ⟨program, rfl, hprogram, hagain⟩
  | _ => cases h

/-- What comes of the sample that a step takes: a script that is compiled has
its first one taken, and another one may be asked for. -/
def sampled? (p : Preview) (step : Step) : Option Sampled :=
  (((p.facet .script).attempt? .script step).map fun text =>
    produce p.settings.limits text p.supply).or (p.asked? step)

/-- The slot of the script takes note of another sample. -/
def resampled (slot : Slot) : Option Sampled → Slot
  | none => slot
  | some (.ok ..) => refreshed slot
  | some (.error e _) => slot.failed (scriptError e)

/-- The slot of a part after a step, apart from what is compiled. -/
def prepared (p : Preview) (stage : Stage) : Step → Slot
  | .load _ sources => (p.slot stage).loaded (sources.get stage)
  | .edit _ s text => if s = stage then (p.slot stage).edited text else p.slot stage
  | .setAutoReload s enabled =>
    if s = stage then { p.slot stage with autoReload := enabled } else p.slot stage
  | .refreshSample =>
    if stage = .script then resampled (p.slot stage) p.resample? else p.slot stage
  | _ => p.slot stage

lemma artifact_resampled (slot : Slot) (sampled : Option Sampled) :
    (resampled slot sampled).artifact = slot.artifact := by
  rcases sampled with _ | ⟨_, _⟩ | ⟨e, _⟩
  · rfl
  · rw [resampled, refreshed]
    split <;> rfl
  · rfl

/-- But for a load, program and data stay until there is another sample. -/
lemma prepared_of_ne_load {stock : Stock} {step : Step}
    (h : ∀ name sources, step ≠ .load name sources) : stock.prepared step = stock := by
  cases step with
  | load name sources => exact absurd rfl (h name sources)
  | _ => rfl

/-- But for a load, an artifact is only replaced by compiling. -/
lemma artifact_prepared {p : Preview} {stage : Stage} {step : Step}
    (h : ∀ name sources, step ≠ .load name sources) :
    (p.prepared stage step).artifact = (p.slot stage).artifact := by
  cases step with
  | load name sources => exact absurd rfl (h name sources)
  | edit =>
    rw [prepared]
    split <;> rfl
  | setAutoReload =>
    rw [prepared]
    split <;> rfl
  | refreshSample =>
    rw [prepared]
    split
    · exact artifact_resampled _ _
    · rfl
  | _ => rfl

/-! ### Compiling -/

section Compiling

variable (p : Preview) (stage t : Stage) (stages : List Stage)

/-- What comes of compiling the script and sampling it. -/
def scriptRun : Sampled := produce p.settings.limits p.slots.script.text p.supply

/-- A preview with slots, program, data and supply of another. -/
def withResults (p q : Preview) : Preview :=
  { p with slots := q.slots, program := q.program, data := q.data, hasData := q.hasData,
           supply := q.supply }

/-- Compiling parts changes nothing but these. -/
lemma runStages_eq_withResults (p : Preview) (stages : List Stage) :
    (p.runStages stages).2 = p.withResults (p.runStages stages).2 := by
  have hstage (p : Preview) (stage : Stage) :
      (p.runStage stage).2 = p.withResults (p.runStage stage).2 := by
    cases stage <;> simp only [runStage, runSource, runScript] <;> split <;> rfl
  induction stages generalizing p with
  | nil => rfl
  | cons stage stages ih =>
    calc ((p.runStage stage).2.runStages stages).2
        = (p.runStage stage).2.withResults ((p.runStage stage).2.runStages stages).2 := ih _
      _ = (p.withResults (p.runStage stage).2).withResults
            ((p.runStage stage).2.runStages stages).2 := by rw [← hstage p stage]
      _ = p.withResults ((p.runStage stage).2.runStages stages).2 := rfl

/-- What comes of a script is what comes of its first sample. -/
lemma outcome_script (text : String) : p.fixed.outcome p.supply text .script
    = match produce p.settings.limits text p.supply with
      | .ok .. => .ok text
      | .error e _ => .error (scriptError e) := rfl

lemma slot_runStage_self : (p.runStage t).2.slot t
    = (p.slot t).concluded (some (p.fixed.outcome p.supply (p.slot t).text t)) := by
  cases t with
  | markup =>
    simp only [runStage, runSource, Fixed.outcome, fixed]
    cases p.markupCompiler (p.slot .markup).text <;> rfl
  | style =>
    simp only [runStage, runSource, Fixed.outcome, fixed]
    cases p.styleCompiler (p.slot .style).text <;> rfl
  | script =>
    simp only [runStage, runScript, Fixed.outcome, fixed, slot, PerStage.get]
    cases produce p.settings.limits p.slots.script.text p.supply <;> rfl

lemma stock_runStage_ne (h : stage ≠ .script) : (p.runStage stage).2.stock = p.stock := by
  cases stage with
  | markup =>
    simp only [runStage, runSource]
    split <;> rfl
  | style =>
    simp only [runStage, runSource]
    split <;> rfl
  | script => exact absurd rfl h

/-- New data comes of the script only. -/
lemma fst_runStage_ne (h : stage ≠ .script) : (p.runStage stage).1 = false := by
  cases stage with
  | script => exact absurd rfl h
  | _ => rfl

lemma stock_runScript : p.runScript.2.stock = p.stock.concluded (some p.scriptRun) := by
  simp only [runScript, scriptRun]
  cases produce p.settings.limits p.slots.script.text p.supply <;> rfl

lemma fst_runScript : p.runScript.1 = p.scriptRun.yield?.isSome := by
  simp only [runScript, scriptRun]
  cases produce p.settings.limits p.slots.script.text p.supply <;> rfl

/-- Where the draws come from matters to scripts only. -/
lemma outcome_congr (fixed : Fixed) (supply supply' : Supply) (text : String)
    (h : t = .script → supply = supply') :
    fixed.outcome supply text t = fixed.outcome supply' text t := by
  cases t with
  | script => rw [h rfl]
  | _ => rfl

/-- The run of another part does not matter. -/
lemma outcome_runStage (h : stage ≠ t) (text : String) :
    (p.runStage stage).2.fixed.outcome (p.runStage stage).2.supply text t
      = p.fixed.outcome p.supply text t := by
  rw [fixed_runStage]
  refine outcome_congr t _ _ _ _ fun ht => ?_
  exact congrArg Stock.supply (stock_runStage_ne p stage fun hs => h (hs.trans ht.symm))

variable {stages}

lemma slot_runStages (hnodup : stages.Nodup) (ht : t ∈ stages) : (p.runStages stages).2.slot t
    = (p.slot t).concluded (some (p.fixed.outcome p.supply (p.slot t).text t)) := by
  induction stages generalizing p with
  | nil => cases ht
  | cons stage stages ih =>
    rw [List.nodup_cons] at hnodup
    simp only [runStages]
    by_cases hs : stage = t
    · subst hs
      rw [slot_runStages_of_notMem _ _ _ hnodup.1, slot_runStage_self]
    · rw [ih _ hnodup.2 ((List.mem_cons.mp ht).resolve_left (Ne.symm hs)),
        slot_runStage_ne _ _ _ hs, outcome_runStage _ _ _ hs]

lemma stock_runStages_of_notMem (h : .script ∉ stages) :
    (p.runStages stages).2.stock = p.stock ∧ (p.runStages stages).1 = false := by
  induction stages generalizing p with
  | nil => exact ⟨rfl, rfl⟩
  | cons stage stages ih =>
    rw [List.mem_cons, not_or] at h
    obtain ⟨hstock, hnew⟩ := ih (p.runStage stage).2 h.2
    simp only [runStages]
    rw [hstock, hnew, fst_runStage_ne _ _ (Ne.symm h.1), stock_runStage_ne _ _ (Ne.symm h.1)]
    exact ⟨rfl, rfl⟩

/-- There is new data if the script is compiled and gives some. -/
lemma stock_runStages (hnodup : stages.Nodup) (hscript : .script ∈ stages) :
    (p.runStages stages).2.stock = p.stock.concluded (some p.scriptRun)
      ∧ (p.runStages stages).1 = p.scriptRun.yield?.isSome := by
  induction stages generalizing p with
  | nil => cases hscript
  | cons stage stages ih =>
    rw [List.nodup_cons] at hnodup
    simp only [runStages]
    by_cases hs : stage = .script
    · subst hs
      have hrest := stock_runStages_of_notMem (p.runStage .script).2 hnodup.1
      rw [hrest.1, hrest.2, Bool.or_false]
      exact ⟨stock_runScript p, fst_runScript p⟩
    · obtain ⟨hrest, hnew⟩ := ih (p.runStage stage).2 hnodup.2
        ((List.mem_cons.mp hscript).resolve_left (Ne.symm hs))
      have hstock := stock_runStage_ne p stage hs
      have hrun : (p.runStage stage).2.scriptRun = p.scriptRun := by
        have hslot : (p.runStage stage).2.slots.script = p.slots.script :=
          slot_runStage_ne p stage .script hs
        have hsettings : (p.runStage stage).2.settings = p.settings :=
          congrArg Fixed.settings (fixed_runStage p stage)
        have hsupply : (p.runStage stage).2.supply = p.supply := congrArg Stock.supply hstock
        rw [scriptRun, scriptRun, hslot, hsettings, hsupply]
      rw [hrest, hnew, fst_runStage_ne _ _ hs, hstock, hrun]
      exact ⟨rfl, Bool.false_or _⟩

variable (stages) in
lemma slot_apply_runStages : (p.apply stages).slot t = (p.runStages stages).2.slot t := by
  obtain ⟨published, happly, hsame⟩ := p.apply_eq stages
  rw [happly, (hsame _).2]

variable (stages) in
/-- Consumers are told, and given data if there is new data. -/
lemma apply_eq_if : p.apply stages
    = if (p.runStages stages).1 then (p.runStages stages).2.publish.deliver
      else (p.runStages stages).2.publish := rfl

variable (stages) in
lemma stock_apply_runStages : (p.apply stages).stock = (p.runStages stages).2.stock := by
  rw [apply_eq_if]
  split <;> rfl

/-- A part that is compiled takes note of what has come of its text. -/
lemma slot_apply (hnodup : stages.Nodup) (ht : t ∈ stages) : (p.apply stages).slot t
    = (p.slot t).concluded (some (p.fixed.outcome p.supply (p.slot t).text t)) := by
  rw [slot_apply_runStages, slot_runStages p t hnodup ht]

lemma stock_apply (hnodup : stages.Nodup) (hscript : .script ∈ stages) :
    (p.apply stages).stock = p.stock.concluded (some p.scriptRun) := by
  rw [stock_apply_runStages, (stock_runStages p hnodup hscript).1]

lemma stock_apply_of_notMem (h : .script ∉ stages) : (p.apply stages).stock = p.stock := by
  rw [stock_apply_runStages, (stock_runStages_of_notMem p h).1]

end Compiling

/-! ### Flushing compiles -/

section Flushing

variable {p q r : Preview} {stage t : Stage} {stages : List Stage}

/-- Two previews are the same to a part, with what it takes to compile it. -/
structure Same (t : Stage) (p q : Preview) : Prop where
  slot : q.slot t = p.slot t
  facet : q.facet t = p.facet t
  fixed : q.fixed = p.fixed
  stock : t = .script → q.stock = p.stock

lemma Same.trans (h : Same t p q) (h' : Same t q r) : Same t p r where
  slot := h'.slot.trans h.slot
  facet := h'.facet.trans h.facet
  fixed := h'.fixed.trans h.fixed
  stock ht := (h'.stock ht).trans (h.stock ht)

lemma Same.outcome? (h : Same t p q) (step : Step) : q.outcome? t step = p.outcome? t step := by
  have houtcome (text : String) :
      q.fixed.outcome q.supply text t = p.fixed.outcome p.supply text t := by
    rw [h.fixed]
    exact outcome_congr t _ _ _ _ fun ht => congrArg Stock.supply (h.stock ht)
  simp only [Preview.outcome?, h.facet, houtcome]

lemma Same.sampled?_flush (h : Same .script p q) : q.sampled? .flush = p.sampled? .flush := by
  have hsettings : q.settings = p.settings := congrArg Fixed.settings h.fixed
  have hsupply : q.supply = p.supply := congrArg Stock.supply (h.stock rfl)
  rw [Preview.sampled?, Preview.sampled?, h.facet, hsettings, hsupply]
  rfl

/-- A flush of a compile does what is waiting. -/
lemma flushCompile_eq (p : Preview) (stage : Stage) : p.flushCompile stage
    = if (p.facet stage).compile.isPending then (p.cancelCompile stage).apply [stage]
      else p.cancelCompile stage := by
  rw [flushCompile, compileFired, fst_flush_isSome]
  rfl

lemma same_flushCompile (p : Preview) (h : stage ≠ t) : Same t p (p.flushCompile stage) where
  slot := slot_compileFired p stage t _ fun hs => absurd hs h
  facet := by rw [flushCompile, facet_compileFired, if_neg h]
  fixed := fixed_compileFired p stage _
  stock ht := by
    have hscript : Stage.script ∉ [stage] := fun hs =>
      h ((List.mem_singleton.mp hs).symm.trans ht.symm)
    rw [flushCompile_eq]
    split
    · rw [stock_apply_of_notMem _ hscript]
      rfl
    · rfl

lemma same_flushCompiles (p : Preview) (h : t ∉ stages) :
    Same t p (stages.foldl flushCompile p) := by
  induction stages generalizing p with
  | nil => exact ⟨rfl, rfl, rfl, fun _ => rfl⟩
  | cons stage stages ih =>
    rw [List.mem_cons, not_or] at h
    exact (same_flushCompile p (Ne.symm h.1)).trans (ih _ h.2)

lemma slot_flushCompile_self (p : Preview) (t : Stage) :
    (p.flushCompile t).slot t = (p.slot t).concluded (p.outcome? t .flush) := by
  rw [flushCompile_eq, outcome?, Facet.attempt?]
  split
  · rw [slot_apply _ _ (Stage.nodup_singleton _) List.mem_cons_self]
    rfl
  · rfl

lemma stock_flushCompile_script (p : Preview) :
    (p.flushCompile .script).stock = p.stock.concluded (p.sampled? .flush) := by
  rw [flushCompile_eq, sampled?, Facet.attempt?]
  split
  · rw [stock_apply _ (Stage.nodup_singleton _) List.mem_cons_self]
    rfl
  · rfl

/-- Flushing compiles comes to the part once. -/
lemma slot_flushCompiles_mem (p : Preview) (hnodup : stages.Nodup) (ht : t ∈ stages) :
    (stages.foldl flushCompile p).slot t = (p.slot t).concluded (p.outcome? t .flush) := by
  induction stages generalizing p with
  | nil => cases ht
  | cons stage stages ih =>
    rw [List.nodup_cons] at hnodup
    rw [List.foldl_cons]
    by_cases hs : stage = t
    · subst hs
      rw [(same_flushCompiles _ hnodup.1).slot, slot_flushCompile_self]
    · have hsame := same_flushCompile p hs
      rw [ih _ hnodup.2 ((List.mem_cons.mp ht).resolve_left (Ne.symm hs)), hsame.slot,
        hsame.outcome?]

lemma stock_flushCompiles (p : Preview) (hnodup : stages.Nodup) (hscript : .script ∈ stages) :
    (stages.foldl flushCompile p).stock = p.stock.concluded (p.sampled? .flush) := by
  induction stages generalizing p with
  | nil => cases hscript
  | cons stage stages ih =>
    rw [List.nodup_cons] at hnodup
    rw [List.foldl_cons]
    by_cases hs : stage = .script
    · subst hs
      rw [(same_flushCompiles _ hnodup.1).stock rfl, stock_flushCompile_script]
    · have hsame := same_flushCompile p hs
      rw [ih _ hnodup.2 ((List.mem_cons.mp hscript).resolve_left (Ne.symm hs)), hsame.stock rfl,
        hsame.sampled?_flush]

lemma stock_flush (p : Preview) : p.flush.stock = (Stage.all.foldl flushCompile p).stock := by
  rw [flush]
  generalize Stage.all.foldl flushCompile p = q
  simp only [Stage.all, List.foldl_cons, List.foldl_nil]
  rfl

end Flushing

/-! ### Steps -/

section Steps

variable (p : Preview) (step : Step) (stage t : Stage)

/-- A step that does not touch a slot. -/
lemma slot_of_idle {q : Preview} (hslot : q.slot t = p.prepared t step)
    (hnone : (p.facet t).attempt? t step = none) :
    q.slot t = (p.prepared t step).concluded (p.outcome? t step) := by
  rw [hslot, outcome?, hnone]
  rfl

/-- The slot of a part that is compiled alone. -/
lemma slot_apply_single : (p.apply [stage]).slot t
    = if stage = t then
        (p.slot t).concluded (some (p.fixed.outcome p.supply (p.slot t).text t))
      else p.slot t := by
  split
  · next hs =>
    subst hs
    exact slot_apply p stage (Stage.nodup_singleton _) List.mem_cons_self
  · next hs => exact slot_apply_of_notMem p t [stage] fun ht => hs (List.mem_singleton.mp ht).symm

lemma stock_apply_single : (p.apply [stage]).stock
    = if stage = .script then p.stock.concluded (some p.scriptRun) else p.stock := by
  split
  · next hs =>
    subst hs
    exact stock_apply p (Stage.nodup_singleton _) List.mem_cons_self
  · next hs => exact stock_apply_of_notMem p fun ht => hs (List.mem_singleton.mp ht).symm

lemma slot_refreshSample : p.refreshSample.2.slot t = p.prepared t .refreshSample := by
  rw [refreshSample]
  simp only [prepared, resample?]
  cases p.program with
  | none => cases t <;> rfl
  | some program =>
    simp only [again, Option.map_some]
    cases program.sample p.supply <;> cases t <;> rfl

lemma stock_refreshSample : p.refreshSample.2.stock = p.stock.concluded p.resample? := by
  rw [refreshSample, resample?]
  cases hprogram : p.program with
  | none => rfl
  | some program =>
    simp only [again, Option.map_some]
    cases program.sample p.supply with
    | ok data supply => simp [stock, Stock.concluded, publish, deliver, modifySlot]
    | error e supply => simp [stock, Stock.concluded, publish, modifySlot, hprogram]

/-- The switch compiles what was edited while it was off. -/
lemma attempt_setAutoReload (enabled : Bool) :
    (p.facet t).attempt? t (.setAutoReload stage enabled)
      = if stage = t ∧ (enabled && (p.slot stage).dirty) = true then some (p.slot t).text
        else none := by
  by_cases hs : stage = t
  · subst hs
    simp [Facet.attempt?, facet]
  · simp [Facet.attempt?, hs]

/-- What a step makes of a slot. -/
theorem slot_step : (p.step step).slot t = (p.prepared t step).concluded (p.outcome? t step) := by
  cases step with
  | load name sources =>
    rw [Preview.step, load, slot_apply _ _ Stage.nodup_all (Stage.mem_all t)]
    cases t <;> rfl
  | edit now stage text =>
    have hslot : (p.edit now stage text).slot t
        = (p.modifySlot stage (Slot.edited text)).slot t := by
      rw [edit]
      split <;> rfl
    exact slot_of_idle p _ t (hslot.trans (slot_modifySlot ..)) rfl
  | compileNow stage =>
    rw [Preview.step, compileNow_snd, slot_apply_single, outcome?, Facet.attempt?]
    split <;> rfl
  | refreshSample => exact slot_of_idle p _ t (slot_refreshSample p t) rfl
  | setAutoReload stage enabled =>
    have hswitched : (((p.modifySlot stage fun slot => { slot with autoReload := enabled
        }).cancelCompile stage).slot t) = p.prepared t (.setAutoReload stage enabled) :=
      slot_modifySlot ..
    rw [Preview.step, setAutoReload, outcome?, attempt_setAutoReload]
    by_cases h : (enabled && (p.slot stage).dirty) = true
    · rw [if_pos h, slot_apply_single, hswitched]
      by_cases hs : stage = t
      · subst hs
        rw [if_pos rfl, if_pos ⟨rfl, h⟩, prepared, if_pos rfl]
        rfl
      · rw [if_neg hs, if_neg fun hall => hs hall.1]
        rfl
    · rw [if_neg h, hswitched, if_neg fun hall => h hall.2]
      rfl
  | attach consumer =>
    refine slot_of_idle p _ t ?_ rfl
    rw [Preview.step, attach]
    split <;> rfl
  | flush =>
    rw [Preview.step, (flush_eq p t).2, slot_flushCompiles_mem p Stage.nodup_all (Stage.mem_all t)]
    rfl
  | expire alarm time =>
    cases alarm with
    | compile stage =>
      change (p.flushCompile stage).slot t = _
      by_cases hs : stage = t
      · subst hs
        rw [slot_flushCompile_self]
        simp [outcome?, Facet.attempt?, prepared]
      · refine slot_of_idle p _ t (same_flushCompile p hs).slot ?_
        simp [Facet.attempt?, hs]
    | save stage => exact slot_of_idle p _ t rfl rfl
  | saved outcome => cases outcome <;> exact slot_of_idle p _ t rfl rfl
  | _ => exact slot_of_idle p _ t rfl rfl

/-- What a step makes of program and data. -/
theorem stock_step : (p.step step).stock = (p.stock.prepared step).concluded (p.sampled? step) := by
  cases step with
  | load name sources =>
    rw [Preview.step, load, stock_apply _ Stage.nodup_all (Stage.mem_all .script)]
    rfl
  | edit now stage text =>
    rw [Preview.step, edit]
    split <;> rfl
  | compileNow stage =>
    rw [Preview.step, compileNow_snd, stock_apply_single, sampled?, Facet.attempt?]
    split <;> rfl
  | refreshSample => exact stock_refreshSample p
  | setAutoReload stage enabled =>
    rw [Preview.step, setAutoReload, sampled?, attempt_setAutoReload]
    by_cases h : (enabled && (p.slot stage).dirty) = true
    · rw [if_pos h, stock_apply_single]
      by_cases hs : stage = .script
      · subst hs
        rw [if_pos rfl, if_pos ⟨rfl, h⟩]
        rfl
      · rw [if_neg hs, if_neg fun hall => hs hall.1]
        rfl
    · rw [if_neg h, if_neg fun hall => h hall.2]
      rfl
  | attach consumer =>
    rw [Preview.step, attach]
    split <;> rfl
  | flush =>
    rw [Preview.step, stock_flush, stock_flushCompiles p Stage.nodup_all (Stage.mem_all .script)]
    rfl
  | expire alarm time =>
    cases alarm with
    | compile stage =>
      change (p.flushCompile stage).stock = _
      by_cases hs : stage = .script
      · subst hs
        rw [stock_flushCompile_script]
        simp [sampled?, Facet.attempt?, asked?, Stock.prepared]
      · rw [(same_flushCompile p hs).stock rfl]
        simp [sampled?, Facet.attempt?, asked?, hs]
        rfl
    | save stage => rfl
  | saved outcome => cases outcome <;> rfl
  | _ => rfl

end Steps

/-! ### A script that is compiled -/

section Compiled

variable {p : Preview} {step : Step} {text : String} {supply : Supply}

/-- A script that compiles and gives a sample is in use. -/
lemma script_compiled {program : Program} {data : Json}
    (hattempt : (p.facet .script).attempt? .script step = some text)
    (h : produce p.settings.limits text p.supply = .ok (program, data) supply) :
    (p.step step).slot .script = (p.prepared .script step).begun.applied text
      ∧ (p.step step).stock = ⟨some program, data, true, supply⟩ := by
  rw [slot_step, stock_step, outcome?, sampled?, hattempt, Option.map_some, Option.map_some,
    outcome_script, h]
  exact ⟨rfl, rfl⟩

/-- What is wrong with a script that does not is noted. -/
lemma script_refused {e : ScriptError}
    (hattempt : (p.facet .script).attempt? .script step = some text)
    (h : produce p.settings.limits text p.supply = .error e supply) :
    (p.step step).slot .script = (p.prepared .script step).begun.failed (scriptError e)
      ∧ (p.step step).stock = { p.stock.prepared step with supply } := by
  rw [slot_step, stock_step, outcome?, sampled?, hattempt, Option.map_some, Option.map_some,
    outcome_script, h]
  exact ⟨rfl, rfl⟩

/-- Another sample of the program in use. -/
lemma sample_given {program : Program} {data : Json} (hprogram : p.program = some program)
    (h : program.sample p.supply = .ok data supply) : p.refreshSample.1 = .ok data
      ∧ (p.step .refreshSample).stock = ⟨some program, data, true, supply⟩ := by
  refine ⟨by simp only [refreshSample, hprogram, h], ?_⟩
  rw [Preview.step, stock_refreshSample, resample?, hprogram, Option.map_some, again, h]
  rfl

lemma sample_refused {program : Program} {e : ScriptError} (hprogram : p.program = some program)
    (h : program.sample p.supply = .error e supply) :
    p.refreshSample.1 = .error (.stage (scriptError e))
      ∧ (p.step .refreshSample).stock = { p.stock with supply } := by
  refine ⟨by simp only [refreshSample, hprogram, h], ?_⟩
  rw [Preview.step, stock_refreshSample, resample?, hprogram, Option.map_some, again, h]
  rfl

end Compiled

end Preview

end MockupStudio
