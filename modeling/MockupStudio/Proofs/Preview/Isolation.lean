/-
What a step leaves alone.

* `Step.aim?`: the part that a step is about;
* `Preview.FailsTo`: an error is noted at its part, and artifact, program and
  data are as before;
* `Preview.isolated_step`: a step that is about a part leaves the others alone,
  and program and data as well unless the part is the script; what it fails
  with is noted, but for another sample asked for without a program, which
  changes nothing.
-/
import MockupStudio.Proofs.Preview.Outcomes

namespace MockupStudio

open Script

/-- The part that a step is about, if it is about one. Samples are about the
script. -/
def Step.aim? : Step → Option Stage
  | .edit _ stage _ | .compileNow stage | .setAutoReload stage _ => some stage
  | .expire (.compile stage) _ => some stage
  | .refreshSample => some .script
  | _ => none

namespace Preview

/-- A failure is the error of its part, and changes neither artifact nor program
nor data. -/
structure FailsTo (p q : Preview) (stage : Stage) (e : StageError) : Prop where
  artifact : (q.slot stage).artifact = (p.slot stage).artifact
  program : q.program = p.program
  data : q.data = p.data
  hasData : q.hasData = p.hasData
  error : (q.slot stage).error = some e
  status : (q.slot stage).status = .failed

section Aims

variable {p : Preview} {step : Step} {stage t : Stage}

/-! ### Other parts -/

/-- Other parts are not compiled. -/
lemma attempt?_of_aim (h : step.aim? = some stage) (ht : stage ≠ t) :
    (p.facet t).attempt? t step = none := by
  cases step with
  | compileNow =>
    cases h
    exact if_neg ht
  | setAutoReload =>
    cases h
    exact if_neg fun hall => ht hall.1
  | expire alarm time =>
    cases alarm with
    | compile =>
      cases h
      exact if_neg fun hall => ht hall.1
    | save => rfl
  | load | flush => cases h
  | _ => rfl

lemma prepared_of_aim (h : step.aim? = some stage) (ht : stage ≠ t) :
    p.prepared t step = p.slot t := by
  cases step with
  | edit =>
    cases h
    exact if_neg ht
  | setAutoReload =>
    cases h
    exact if_neg ht
  | refreshSample =>
    cases h
    exact if_neg (Ne.symm ht)
  | load => cases h
  | _ => rfl

lemma slot_step_of_aim (h : step.aim? = some stage) (ht : stage ≠ t) :
    (p.step step).slot t = p.slot t := by
  rw [slot_step, outcome?, attempt?_of_aim h ht, prepared_of_aim h ht]
  rfl

lemma ne_load_of_aim (h : step.aim? = some stage) (name : String) (sources : Sources) :
    step ≠ .load name sources := by
  rintro rfl
  cases h

lemma stock_step_of_aim (h : step.aim? = some stage) (hs : stage ≠ .script) :
    (p.step step).stock = p.stock := by
  have hasked : p.asked? step = none := by
    cases step with
    | refreshSample =>
      cases h
      exact absurd rfl hs
    | _ => rfl
  rw [stock_step, sampled?, attempt?_of_aim h hs, hasked, prepared_of_ne_load (ne_load_of_aim h)]
  rfl

/-! ### Failures -/

/-- An error that is noted after what else a step does. -/
lemma failsTo_of_outcome (h : step.aim? = some stage) {e : StageError}
    (he : p.outcome? stage step = some (.error e)) : p.FailsTo (p.step step) stage e := by
  have hslot : (p.step step).slot stage = (p.prepared stage step).begun.failed e := by
    rw [slot_step, he]
    rfl
  have hstock : ∃ supply, (p.step step).stock = { p.stock with supply } := by
    by_cases hs : stage = .script
    · subst hs
      obtain ⟨text, hattempt, houtcome⟩ := Option.map_eq_some_iff.mp he
      rw [outcome_script] at houtcome
      rw [stock_step, sampled?, hattempt, prepared_of_ne_load (ne_load_of_aim h)]
      cases hproduce : produce p.settings.limits text p.supply with
      | ok made supply =>
        rw [hproduce] at houtcome
        cases houtcome
      | error e' supply =>
        refine ⟨supply, ?_⟩
        rw [Option.map_some, hproduce]
        rfl
    · exact ⟨p.supply, stock_step_of_aim h hs⟩
  obtain ⟨supply, hstock⟩ := hstock
  have hartifact : (p.prepared stage step).artifact = (p.slot stage).artifact :=
    artifact_prepared (ne_load_of_aim h)
  exact ⟨by rw [hslot]; exact hartifact, congrArg Stock.program hstock, congrArg Stock.data hstock,
    congrArg Stock.hasData hstock, by rw [hslot]; rfl, by rw [hslot]; rfl⟩

/-- Compiling at once fails with the error of the outcome. -/
lemma outcome_of_compileNow {e : StageError} (he : (p.compileNow stage).1 = .error e) :
    p.outcome? stage (.compileNow stage) = some (.error e) := by
  have hslot : (p.step (.compileNow stage)).slot stage
      = (p.prepared stage (.compileNow stage)).concluded (p.outcome? stage (.compileNow stage)) :=
    slot_step p (.compileNow stage) stage
  have hsome : p.outcome? stage (.compileNow stage)
      = some (p.fixed.outcome p.supply (p.slot stage).text stage) := by
    rw [outcome?, Facet.attempt?, if_pos rfl]
    rfl
  rw [hsome] at hslot ⊢
  rw [Preview.step, compileNow_snd] at hslot
  rw [compileNow] at he
  simp only [hslot] at he
  cases houtcome : p.fixed.outcome p.supply (p.slot stage).text stage with
  | ok artifact =>
    rw [houtcome] at he
    cases he
  | error e' =>
    rw [houtcome] at he
    cases he
    rfl

/-- Another sample fails if there is no program, and then nothing has changed,
or with an error that is noted. -/
lemma refreshSample_error {e : PreviewError} (he : p.refreshSample.1 = .error e) :
    (e = .noProgram ∧ p.program = none ∧ p.refreshSample.2 = p)
      ∨ ∃ error, e = .stage error ∧ p.FailsTo p.refreshSample.2 .script error := by
  rw [refreshSample] at he ⊢
  cases hprogram : p.program with
  | none =>
    rw [hprogram] at he
    cases he
    exact .inl ⟨rfl, rfl, rfl⟩
  | some program =>
    simp only [hprogram] at he ⊢
    cases hsample : program.sample p.supply with
    | ok data supply =>
      rw [hsample] at he
      cases he
    | error error supply =>
      rw [hsample] at he
      cases he
      exact .inr ⟨_, rfl, rfl, hprogram.symm, rfl, rfl, rfl, rfl⟩

end Aims

/-- A step that is about a part leaves the other parts as they are, and program
and data too unless the part is the script. If it compiles a text and that
fails, the error is noted and the artifact, the program and the data stay as
they are; so they do if another sample fails. Without a program, asking for a
sample fails and changes nothing. -/
theorem isolated_step (p : Preview) {step : Step} {stage : Stage} (h : step.aim? = some stage) :
    (∀ t, stage ≠ t → (p.step step).slot t = p.slot t)
      ∧ (stage ≠ .script → (p.step step).program = p.program ∧ (p.step step).data = p.data
        ∧ (p.step step).hasData = p.hasData)
      ∧ (∀ e, p.outcome? stage step = some (.error e) → p.FailsTo (p.step step) stage e)
      ∧ (∀ e, step = .compileNow stage → (p.compileNow stage).1 = .error e →
        p.FailsTo (p.step step) stage e)
      ∧ ∀ e, step = .refreshSample → p.refreshSample.1 = .error e →
        (e = .noProgram ∧ p.program = none ∧ p.step step = p)
          ∨ ∃ error, e = .stage error ∧ p.FailsTo (p.step step) .script error := by
  refine ⟨fun t ht => slot_step_of_aim h ht, fun hs => ?_, fun e he => failsTo_of_outcome h he,
    ?_, ?_⟩
  · have hstock := stock_step_of_aim (p := p) h hs
    exact ⟨congrArg Stock.program hstock, congrArg Stock.data hstock,
      congrArg Stock.hasData hstock⟩
  · rintro e rfl he
    exact failsTo_of_outcome h (outcome_of_compileNow he)
  · rintro e rfl he
    exact refreshSample_error he

/-- A preview whose style does not compile. -/
def unstyled : Preview :=
  { Preview.create "demo" {} { source := .seeded 0 } with
    styleCompiler := fun _ => .error "no style" }

/-- The failure of a style is that of the style. -/
theorem isolated_step_unstyled : Step.aim? (.compileNow .style) = some .style
    ∧ unstyled.FailsTo (unstyled.step (.compileNow .style)) .style ⟨.style, "no style", none⟩ :=
  ⟨rfl, (isolated_step unstyled rfl).2.2.1 _ rfl⟩

/-- In a preview just begun, asking for another sample fails, and this is not
noted as an error of the script. -/
theorem refreshSample_unnoted :
    let p := (Session.begin "demo" {} { source := .seeded 0 } .ok .ok () 0).preview
    p.refreshSample.1 = .error .noProgram ∧ (p.refreshSample.2.slot .script).error = none :=
  ⟨rfl, rfl⟩

end Preview

end MockupStudio
