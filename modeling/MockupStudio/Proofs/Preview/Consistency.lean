/-
Slots and data agree.

* `Slot.Consistent`: status, error and artifact of a part agree with what
  compiling its text gives;
* `Stock.Consistent`: the program in use is that of the artifact of the script,
  and the data is a sample of it;
* `Preview.Consistent.step`: every step keeps both;
* `Session.consistent_run`: so they hold in every run, the data having been
  drawn from a supply that the preview has had.
-/
import MockupStudio.Proofs.Preview.Outcomes
import Mathlib.Data.List.Induction

namespace MockupStudio

open Script

/-! ### Slots -/

/-- Status, error and artifact of a part agree with what a compiler makes of
its text. -/
structure Slot.Consistent (compiler : Compiler) (slot : Slot) : Prop where
  settled : slot.status ≠ .compiling
  applied : slot.status = .applied → slot.error = none ∧ compiler slot.text = .ok slot.artifact
  failed : slot.status = .failed → slot.error.isSome

namespace Slot.Consistent

variable {compiler : Compiler} {slot : Slot}

/-- Nothing is asked of a part that has not been compiled. -/
lemma of_idle (h : slot.status = .idle) : slot.Consistent compiler := by
  constructor <;> simp [h]

lemma of_applied {artifact : String} (h : compiler slot.text = .ok artifact) :
    (slot.applied artifact).Consistent compiler where
  settled := by simp [Slot.applied]
  applied _ := ⟨rfl, h⟩
  failed hstatus := by simp [Slot.applied] at hstatus

lemma of_failed (e : StageError) : (slot.failed e).Consistent compiler where
  settled := by simp [Slot.failed]
  applied hstatus := by simp [Slot.failed] at hstatus
  failed _ := rfl

/-- Another sample changes the status if the text is the one in use. -/
lemma resampled (h : slot.Consistent .ok) (sampled : Option Sampled) :
    (Preview.resampled slot sampled).Consistent .ok := by
  rcases sampled with _ | ⟨_, _⟩ | ⟨e, _⟩
  · exact h
  · rw [Preview.resampled, Preview.refreshed]
    split
    · next htext => exact of_applied (congrArg Except.ok htext)
    · exact h
  · exact of_failed _

end Slot.Consistent

/-- The compilers of the parts. The artifact of a script is its text. -/
def Fixed.compilers (fixed : Fixed) : PerStage Compiler := ⟨fixed.markup, fixed.style, .ok⟩

/-- The artifact among outcomes is the one that is made of the text. -/
lemma Fixed.compilers_of_outcome {fixed : Fixed} {supply : Supply} {text artifact : String}
    {t : Stage} (h : fixed.outcome supply text t = .ok artifact) :
    fixed.compilers.get t text = .ok artifact := by
  have hmap {result : Except String String} {f : String → StageError}
      (h : result.mapError f = .ok artifact) : result = .ok artifact := by
    cases result with
    | ok _ =>
      cases h
      rfl
    | error _ => cases h
  cases t with
  | markup => exact hmap h
  | style => exact hmap h
  | script =>
    rw [Fixed.outcome] at h
    split at h
    · cases h
      rfl
    · cases h

namespace Preview

variable {p : Preview} {step : Step} {t : Stage}

/-- What is compiled is the text the slot then has. -/
lemma text_prepared {text : String} (h : (p.facet t).attempt? t step = some text) :
    (p.prepared t step).text = text := by
  cases step with
  | load name sources => exact Option.some.inj h
  | edit | refreshSample | attach | rename | takeNotices | handOver | saved => cases h
  | compileNow stage =>
    exact Option.some.inj (Option.ite_none_right_eq_some.mp h).2
  | setAutoReload stage enabled =>
    obtain ⟨⟨hs, -⟩, htext⟩ := Option.ite_none_right_eq_some.mp h
    rw [prepared, if_pos hs]
    exact Option.some.inj htext
  | flush => exact Option.some.inj (Option.ite_none_right_eq_some.mp h).2
  | expire alarm time =>
    cases alarm with
    | compile stage => exact Option.some.inj (Option.ite_none_right_eq_some.mp h).2
    | save stage => cases h

lemma slot_consistent_prepared (h : (p.slot t).Consistent (p.fixed.compilers.get t)) :
    (p.prepared t step).Consistent (p.fixed.compilers.get t) := by
  cases step with
  | load name sources => exact .of_idle rfl
  | edit now stage text =>
    rw [prepared]
    split
    · exact .of_idle rfl
    · exact h
  | refreshSample =>
    rw [prepared]
    split
    · next hs =>
      subst hs
      exact h.resampled _
    · exact h
  | setAutoReload stage enabled =>
    rw [prepared]
    split
    · exact ⟨h.settled, h.applied, h.failed⟩
    · exact h
  | _ => exact h

/-- A step keeps status, error and artifact in agreement. -/
lemma slot_consistent_step (h : (p.slot t).Consistent (p.fixed.compilers.get t)) :
    ((p.step step).slot t).Consistent (p.fixed.compilers.get t) := by
  rw [slot_step, outcome?]
  cases hattempt : (p.facet t).attempt? t step with
  | none => exact slot_consistent_prepared h
  | some text =>
    have htext := text_prepared hattempt
    rw [Option.map_some]
    cases houtcome : p.fixed.outcome p.supply text t with
    | ok artifact =>
      refine .of_applied ?_
      change p.fixed.compilers.get t (p.prepared t step).text = _
      rw [htext]
      exact Fixed.compilers_of_outcome houtcome
    | error e => exact .of_failed e

end Preview

/-! ### Program and data -/

/-- The program in use is that of a text, and the data is a sample of it, drawn
from a supply of some kind. -/
structure Stock.Consistent (limits : Limits) (drawn : Supply → Prop) (text : String)
    (stock : Stock) : Prop where
  held : stock.hasData = stock.program.isSome
  compiled : ∀ program, stock.program = some program →
    Program.compile limits text = .ok program
      ∧ ∃ supply supply', drawn supply ∧ program.sample supply = .ok stock.data supply'
  blank : stock.program = none → stock.data = .null

lemma Stock.Consistent.mono {limits : Limits} {drawn drawn' : Supply → Prop} {text : String}
    {stock : Stock} (h : stock.Consistent limits drawn text)
    (hdrawn : ∀ supply, drawn supply → drawn' supply) : stock.Consistent limits drawn' text where
  held := h.held
  compiled program hprogram := by
    obtain ⟨hcompile, supply, supply', hsupply, hsample⟩ := h.compiled program hprogram
    exact ⟨hcompile, supply, supply', hdrawn supply hsupply, hsample⟩
  blank := h.blank

namespace Preview

section Data

variable {p : Preview} {step : Step} {drawn drawn' : Supply → Prop}

/-- Artifact, program and data agree before anything is compiled, and another
sample is one of the same program. -/
lemma stock_consistent_prepared
    (h : p.stock.Consistent p.settings.limits drawn (p.slot .script).artifact) :
    (p.stock.prepared step).Consistent p.settings.limits drawn
      (p.prepared .script step).artifact := by
  by_cases hload : ∃ name sources, step = .load name sources
  · obtain ⟨name, sources, rfl⟩ := hload
    exact ⟨rfl, fun _ hprogram => (by cases hprogram), fun _ => rfl⟩
  · have hstep : ∀ name sources, step ≠ .load name sources := fun name sources hs =>
      hload ⟨name, sources, hs⟩
    rw [prepared_of_ne_load hstep, artifact_prepared hstep]
    exact h

/-- A step keeps artifact, program and data in agreement. -/
lemma stock_consistent_step
    (h : p.stock.Consistent p.settings.limits drawn (p.slot .script).artifact)
    (hdrawn : ∀ supply, drawn supply → drawn' supply) (hsupply : drawn' p.supply) :
    (p.step step).stock.Consistent p.settings.limits drawn'
      ((p.step step).slot .script).artifact := by
  have hprepared : (p.stock.prepared step).Consistent p.settings.limits drawn'
      (p.prepared .script step).artifact := (stock_consistent_prepared h).mono hdrawn
  rw [slot_step, stock_step, outcome?, sampled?]
  cases (p.facet .script).attempt? .script step with
  | none =>
    cases hasked : p.asked? step with
    | none => exact hprepared
    | some sampled =>
      obtain ⟨program, rfl, hprogram, hagain⟩ := exists_of_asked? hasked
      cases sampled with
      | ok made supply =>
        obtain ⟨made, data⟩ := made
        obtain ⟨rfl, hsample⟩ := again_ok hagain
        have hcompile := (hprepared.compiled _ hprogram).1
        refine ⟨rfl, fun _ hin => ?_, fun hnone => (by cases hnone)⟩
        cases hin
        exact ⟨hcompile, p.supply, supply, hsupply, hsample⟩
      | error e supply => exact ⟨hprepared.held, hprepared.compiled, hprepared.blank⟩
  | some text =>
    rw [Option.map_some, Option.map_some, Option.some_or, outcome_script]
    cases hproduce : produce p.settings.limits text p.supply with
    | ok made supply =>
      obtain ⟨program, data⟩ := made
      obtain ⟨hcompile, hsample⟩ := produce_ok hproduce
      refine ⟨rfl, fun _ hprogram => ?_, fun hnone => (by cases hnone)⟩
      cases hprogram
      exact ⟨hcompile, p.supply, supply, hsupply, hsample⟩
    | error e supply => exact ⟨hprepared.held, hprepared.compiled, hprepared.blank⟩

end Data

/-! ### Steps -/

/-- The supplies from which a preview may have drawn in some steps. -/
def HasHad (p : Preview) (taken : List Step) (supply : Supply) : Prop :=
  ∃ earlier, earlier <+: taken ∧ (p.steps earlier).supply = supply

/-- Slots, program and data agree with what compiling gives. -/
structure Consistent (fixed : Fixed) (drawn : Supply → Prop) (p : Preview) : Prop where
  fixed_eq : p.fixed = fixed
  slots : ∀ t, (p.slot t).Consistent (fixed.compilers.get t)
  stock : p.stock.Consistent fixed.settings.limits drawn (p.slot .script).artifact

/-- Every step keeps slots, program and data in agreement. -/
theorem Consistent.step {p : Preview} {fixed : Fixed} {drawn drawn' : Supply → Prop}
    (h : p.Consistent fixed drawn) (hdrawn : ∀ supply, drawn supply → drawn' supply)
    (hsupply : drawn' p.supply) (step : Step) : (p.step step).Consistent fixed drawn' := by
  obtain ⟨rfl, hslots, hstock⟩ := h
  exact ⟨fixed_step p step, fun t => slot_consistent_step (hslots t),
    stock_consistent_step hstock hdrawn hsupply⟩

lemma Consistent.steps {p : Preview} {fixed : Fixed} (h : p.Consistent fixed (p.HasHad []))
    (taken : List Step) : (p.steps taken).Consistent fixed (p.HasHad taken) := by
  induction taken using List.reverseRecOn with
  | nil => exact h
  | append_singleton taken step ih =>
    rw [steps_append]
    -- the supply before the last step is one more that can have been drawn from
    refine ih.step ?_ ?_ step
    · rintro supply ⟨earlier, hprefix, hsupply⟩
      exact ⟨earlier, hprefix.trans (List.prefix_append _ _), hsupply⟩
    · exact ⟨taken, List.prefix_append _ _, rfl⟩

end Preview

/-! ### Runs -/

namespace Session

variable {σ : Type}

/-- After every run, and after any steps whatever, slots, program and data
agree. -/
theorem consistent_run (store : DocumentStore σ) (id : String) (settings : Settings)
    (supply : Supply) (markup style : Compiler) (contents : σ) (now : Nat) :
    let s := begin id settings supply markup style contents now
    let fixed : Fixed := ⟨id, settings, markup, style⟩
    (∀ deeds, (s.run store deeds).preview.Consistent fixed
        (s.preview.HasHad (s.runSteps store deeds)))
      ∧ ∀ taken, (s.preview.steps taken).Consistent fixed (s.preview.HasHad taken) := by
  intro s fixed
  have hbegin : s.preview.Consistent fixed (s.preview.HasHad []) := by
    refine ⟨rfl, fun t => .of_idle ?_, ⟨rfl, fun _ hprogram => (by cases hprogram), fun _ => rfl⟩⟩
    cases t <;> rfl
  refine ⟨fun deeds => ?_, fun taken => hbegin.steps taken⟩
  rw [preview_run]
  exact hbegin.steps _

end Session

end MockupStudio
