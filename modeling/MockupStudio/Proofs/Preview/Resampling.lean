/-
The error of a script while samples of the program in use are taken.

* `Preview.samples`, `Preview.afterSamples`: what some requests for another
  sample answer, and what they leave;
* `Preview.resample_cases`: what one of them does to the slot of the script;
* `Preview.error_afterSamples`: while the text in the editor is not the one in
  use, the last failure of a sample takes the place of what was noted before;
* `Preview.error_of_samples`: so after a last request that gives a sample, the
  error is the one from before just when no request failed with another one;
* `Session.flag_of_newer_text_lost`: a run after which it is not.
-/
import MockupStudio.Proofs.Preview.Outcomes
import MockupStudio.Store.Memory
import Mathlib

namespace MockupStudio

open Script

/-- The error that a request for another sample notes. -/
def StageError.ofAnswer? : Except PreviewError Json → Option StageError
  | .error (.stage e) => some e
  | _ => none

namespace Preview

/-- The preview after so many requests for another sample. -/
def afterSamples (n : Nat) (p : Preview) : Preview := p.steps (.replicate n .refreshSample)

/-- The answers to so many requests for another sample. -/
def samples : Nat → Preview → List (Except PreviewError Json)
  | 0, _ => []
  | n + 1, p => samples n p ++ [(p.afterSamples n).refreshSample.1]

/-- The last failure of a sample among so many requests. -/
def lastFailure? (n : Nat) (p : Preview) : Option StageError :=
  ((p.samples n).filterMap StageError.ofAnswer?).getLast?

section Samples

variable {p : Preview} {n : Nat}

/-- A request without a program changes nothing; a sample puts the text in use
in order if it is the one in the editor, and a failure is noted. -/
lemma resample_cases (p : Preview) :
    (p.refreshSample.1 = .error .noProgram
        ∧ (p.step .refreshSample).slot .script = p.slot .script)
      ∨ (∃ data, p.refreshSample.1 = .ok data
        ∧ (p.step .refreshSample).slot .script = refreshed (p.slot .script))
      ∨ ∃ e, p.refreshSample.1 = .error (.stage e)
        ∧ (p.step .refreshSample).slot .script = (p.slot .script).failed e := by
  have hslot : (p.step .refreshSample).slot .script = resampled (p.slot .script) p.resample? :=
    slot_refreshSample p .script
  rw [hslot, refreshSample, resample?]
  cases p.program with
  | none => exact .inl ⟨rfl, rfl⟩
  | some program =>
    simp only [again, Option.map_some]
    cases program.sample p.supply with
    | ok data supply => exact .inr (.inl ⟨data, rfl, rfl⟩)
    | error e supply => exact .inr (.inr ⟨scriptError e, rfl, rfl⟩)

lemma afterSamples_succ (n : Nat) (p : Preview) :
    p.afterSamples (n + 1) = (p.afterSamples n).step .refreshSample := by
  rw [afterSamples, List.replicate_succ', steps_append]
  rfl

lemma lastFailure?_succ (n : Nat) (p : Preview) : p.lastFailure? (n + 1)
    = (StageError.ofAnswer? (p.afterSamples n).refreshSample.1).or (p.lastFailure? n) := by
  have hlast (answer : Except PreviewError Json) :
      ([answer].filterMap StageError.ofAnswer?).getLast? = StageError.ofAnswer? answer := by
    rw [List.filterMap_cons]
    cases StageError.ofAnswer? answer <;> rfl
  rw [lastFailure?, samples, List.filterMap_append, List.getLast?_append, hlast]
  rfl

lemma text_refreshed (slot : Slot) :
    (refreshed slot).text = slot.text ∧ (refreshed slot).artifact = slot.artifact := by
  rw [refreshed]
  split <;> exact ⟨rfl, rfl⟩

/-- Samples leave the text in the editor and the one in use alone. -/
lemma text_afterSamples (n : Nat) (p : Preview) :
    ((p.afterSamples n).slot .script).text = (p.slot .script).text
      ∧ ((p.afterSamples n).slot .script).artifact = (p.slot .script).artifact := by
  induction n with
  | zero => exact ⟨rfl, rfl⟩
  | succ n ih =>
    rw [afterSamples_succ]
    obtain ⟨-, hslot⟩ | ⟨_, -, hslot⟩ | ⟨_, -, hslot⟩ := resample_cases (p.afterSamples n)
    · rw [hslot]
      exact ih
    · rw [hslot, (text_refreshed _).1, (text_refreshed _).2]
      exact ih
    · rw [hslot]
      exact ih

/-- While the text in the editor is not the one in use, the last failure of a
sample takes the place of what was noted before. -/
lemma error_afterSamples (h : (p.slot .script).text ≠ (p.slot .script).artifact) (n : Nat) :
    ((p.afterSamples n).slot .script).error = (p.lastFailure? n).or (p.slot .script).error := by
  induction n with
  | zero => rfl
  | succ n ih =>
    obtain ⟨htext, hartifact⟩ := text_afterSamples n p
    rw [afterSamples_succ, lastFailure?_succ]
    obtain ⟨hanswer, hslot⟩ | ⟨data, hanswer, hslot⟩ | ⟨e, hanswer, hslot⟩ :=
      resample_cases (p.afterSamples n)
    · rw [hslot, ih, hanswer]
      rfl
    · -- a sample clears the error of no other text
      rw [hslot, refreshed, if_neg (by rwa [htext, hartifact]), ih, hanswer]
      rfl
    · rw [hslot, hanswer]
      rfl

/-- Once the text in the editor is the one in use, a sample clears the error. -/
lemma error_of_last_sample {data : Json} (h : (p.slot .script).text = (p.slot .script).artifact)
    (hlast : (p.samples n).getLast? = some (.ok data)) :
    ((p.afterSamples n).slot .script).error = none := by
  cases n with
  | zero => cases hlast
  | succ n =>
    obtain ⟨htext, hartifact⟩ := text_afterSamples n p
    have hanswer : (p.afterSamples n).refreshSample.1 = .ok data := by
      rw [samples, List.getLast?_concat] at hlast
      exact Option.some.inj hlast
    rw [afterSamples_succ]
    obtain ⟨hanswer', -⟩ | ⟨_, -, hslot⟩ | ⟨_, hanswer', -⟩ := resample_cases (p.afterSamples n)
    · rw [hanswer'] at hanswer
      cases hanswer
    · rw [hslot, refreshed, if_pos (by rw [htext, hartifact, h])]
      rfl
    · rw [hanswer'] at hanswer
      cases hanswer

/-- After some requests for another sample, the last of which is met, there is
no error if the text in the editor is the one in use. If it is not, the error
is that of the last sample that failed, or the one from before if none did: it
is the one from before just when the last failure, if there is one, was the
same error. -/
theorem error_of_samples {data : Json} (hlast : (p.samples n).getLast? = some (.ok data)) :
    ((p.slot .script).text = (p.slot .script).artifact →
        ((p.afterSamples n).slot .script).error = none)
      ∧ ((p.slot .script).text ≠ (p.slot .script).artifact →
        ((p.afterSamples n).slot .script).error = (p.lastFailure? n).or (p.slot .script).error
          ∧ (((p.afterSamples n).slot .script).error = (p.slot .script).error
            ↔ ∀ e, p.lastFailure? n = some e → (p.slot .script).error = some e)) := by
  refine ⟨fun h => error_of_last_sample h hlast, fun h => ⟨error_afterSamples h n, ?_⟩⟩
  rw [error_afterSamples h n]
  cases p.lastFailure? n with
  | none => simp
  | some e =>
    rw [Option.some_or]
    exact ⟨fun heq e' he' => heq ▸ he', fun herror => (herror e rfl).symm⟩

end Samples

end Preview

/-! ### A run in which an error is lost -/

deriving instance DecidableEq for Supply

/-- What can be told from the outcome of a sample apart from its data. -/
def noted : EStateM.Result ScriptError Supply Json → Option StageError × Supply
  | .ok _ supply => (none, supply)
  | .error e supply => (some (Preview.scriptError e), supply)

lemma exists_ok_of_noted {result : EStateM.Result ScriptError Supply Json} {supply : Supply}
    (h : noted result = (none, supply)) : ∃ data, result = .ok data supply := by
  cases result with
  | ok data =>
    cases h
    exact ⟨data, rfl⟩
  | error => cases h

lemma exists_error_of_noted {result : EStateM.Result ScriptError Supply Json} {supply : Supply}
    {e : StageError} (h : noted result = (some e, supply)) :
    ∃ error, Preview.scriptError error = e ∧ result = .error error supply := by
  cases result with
  | ok => cases h
  | error error =>
    cases h
    exact ⟨error, rfl, rfl⟩

/-- Three values may be visited. -/
def threeValues : Limits := { maxResolvedNodes := 3 }

/-- `return pick(0, [1, 2]);` as a program. One of the two has too many values
to be picked. -/
def pickProgram : Program :=
  ⟨[.result (some (.call (.name "pick")
    [.literal (.int 0), .array [.literal (.int 1), .literal (.int 2)]]))], threeValues⟩

/-- A supply of which the number picks, then the array, then the number. -/
def pickSupply (draws : Nat) : Supply :=
  { source := .seeded (6 + stride * UInt64.ofNat draws) }

/-- The failure of a sample that has too many values. -/
def tooManyValues : StageError :=
  ⟨.script, "Resolution failed: resolution produced more than 3 values", none⟩

lemma read_pickProgram : Program.read threeValues "return pick(0, [1, 2]);" = .ok pickProgram := by
  cbv

lemma noted_pickProgram : noted (pickProgram.sample (pickSupply 0)) = (none, pickSupply 1)
    ∧ noted (pickProgram.sample (pickSupply 1)) = (some tooManyValues, pickSupply 2)
    ∧ noted (pickProgram.sample (pickSupply 2)) = (none, pickSupply 3) := by
  decide +kernel

namespace Session

/-- The script of the program. -/
def pickText : String := "return pick(0, [1, 2]);"

/-- A session in which samples may have three values. -/
def pickSession : Session Shelf :=
  begin "pick" { limits := threeValues } (pickSupply 0) .ok .ok [] 0

/-- The script is loaded, and edited to one that does not compile. -/
def pickDeeds : List Deed :=
  [.load "Pick" ⟨"", "", pickText⟩, .edit .script "return \x7b", .compileNow .script]

/-- The preview then. -/
def pickPreview : Preview := (pickSession.run Shelf.store pickDeeds).preview

lemma produce_pickText : ∃ data, Preview.produce threeValues pickText (pickSupply 0)
    = .ok (pickProgram, data) (pickSupply 1) := by
  obtain ⟨data, hsample⟩ := exists_ok_of_noted noted_pickProgram.1
  exact ⟨data, Preview.produce_of_sample (Preview.compile_of_sample read_pickProgram hsample)
    hsample⟩

/-- What is wrong with a brace that is not closed. -/
def unclosed : ScriptError := .parse (.expected .propertyName .endOfText 1)

lemma read_unclosed : Program.read threeValues "return \x7b" = .error unclosed := by cbv

/-- The script is in use, and what is wrong with the newer text is noted. -/
lemma pickPreview_flagged : (pickPreview.slot .script).text = "return \x7b"
    ∧ (pickPreview.slot .script).artifact = pickText
    ∧ (pickPreview.slot .script).error = some (Preview.scriptError unclosed)
    ∧ pickPreview.program = some pickProgram ∧ pickPreview.supply = pickSupply 1 := by
  obtain ⟨data, hproduce⟩ := produce_pickText
  -- the script is loaded and gives a sample
  let loaded := pickSession.preview.step (.load "Pick" ⟨"", "", pickText⟩)
  obtain ⟨hslot, hstock⟩ : loaded.slot .script
        = ((pickSession.preview.slot .script).loaded pickText).begun.applied pickText
      ∧ loaded.stock = ⟨some pickProgram, data, true, pickSupply 1⟩ :=
    Preview.script_compiled rfl hproduce
  -- it is edited
  let edited := loaded.step (.edit 0 .script "return \x7b")
  have hedited : edited.slot .script = (loaded.slot .script).edited "return \x7b" :=
    Preview.slot_step loaded (.edit 0 .script "return \x7b") .script
  have hkept : edited.stock = loaded.stock :=
    Preview.stock_step loaded (.edit 0 .script "return \x7b")
  -- and refused
  have hrefused : Preview.produce edited.settings.limits "return \x7b" edited.supply
      = .error unclosed (pickSupply 1) := by
    have hsupply : edited.supply = pickSupply 1 :=
      congrArg Stock.supply (hkept.trans hstock)
    have hfixed : edited.fixed = pickSession.preview.fixed :=
      (Preview.fixed_step loaded _).trans (Preview.fixed_step pickSession.preview _)
    have hlimits : edited.settings.limits = threeValues :=
      congrArg (Fixed.settings · |>.limits) hfixed
    rw [hsupply, hlimits, Preview.produce, Program.compile, read_unclosed]
  have hattempt : (edited.facet .script).attempt? .script (.compileNow .script)
      = some "return \x7b" := by
    have htext : (edited.facet .script).text = "return \x7b" := congrArg Slot.text hedited
    rw [Facet.attempt?, if_pos rfl, htext]
  obtain ⟨hslot', hstock'⟩ := Preview.script_refused hattempt hrefused
  have hlast : pickPreview.slot .script
      = ((loaded.slot .script).edited "return \x7b").begun.failed (Preview.scriptError unclosed) :=
    hslot'.trans (by rw [← hedited]; rfl)
  have hheld : pickPreview.stock = ⟨some pickProgram, data, true, pickSupply 1⟩ :=
    hstock'.trans (by rw [Preview.prepared_of_ne_load (by simp), hkept, hstock])
  exact ⟨congrArg Slot.text hlast,
    (congrArg Slot.artifact hlast).trans (congrArg Slot.artifact hslot),
    congrArg Slot.error hlast, congrArg Stock.program hheld, congrArg Stock.supply hheld⟩

/-- The array is drawn first, and the number then. -/
lemma samples_pickPreview : ∃ data, pickPreview.samples 2
    = [.error (.stage tooManyValues), .ok data] := by
  obtain ⟨-, -, -, hprogram, hsupply⟩ := pickPreview_flagged
  obtain ⟨e, he, hfirst⟩ := exists_error_of_noted noted_pickProgram.2.1
  obtain ⟨data, hsecond⟩ := exists_ok_of_noted noted_pickProgram.2.2
  rw [← hsupply] at hfirst
  obtain ⟨hanswer, hstock⟩ := Preview.sample_refused hprogram hfirst
  have hprogram' : (pickPreview.step .refreshSample).program = some pickProgram :=
    (congrArg Stock.program hstock).trans hprogram
  have hsupply' : (pickPreview.step .refreshSample).supply = pickSupply 2 :=
    congrArg Stock.supply hstock
  rw [← hsupply'] at hsecond
  refine ⟨data, ?_⟩
  change [pickPreview.refreshSample.1, (pickPreview.step .refreshSample).refreshSample.1] = _
  rw [hanswer, (Preview.sample_given hprogram' hsecond).1, he]

lemma pickPreview_requests : (pickPreview.slot .script).text ≠ (pickPreview.slot .script).artifact
    ∧ (∃ data, (pickPreview.samples 2).getLast? = some (.ok data))
    ∧ pickPreview.lastFailure? 2 = some tooManyValues := by
  obtain ⟨htext, hartifact, -⟩ := pickPreview_flagged
  obtain ⟨data, hsamples⟩ := samples_pickPreview
  refine ⟨?_, ⟨data, by rw [hsamples]; rfl⟩, by rw [Preview.lastFailure?, hsamples]; rfl⟩
  rw [htext, hartifact]
  decide

/-- The failure of a sample of the older script is still there after a sample
that did not fail. -/
theorem pick_error_of_samples : ∃ data, (pickPreview.samples 2).getLast? = some (.ok data)
    ∧ (pickPreview.slot .script).text ≠ (pickPreview.slot .script).artifact
    ∧ ((pickPreview.afterSamples 2).slot .script).error = some tooManyValues := by
  obtain ⟨htext, ⟨data, hlast⟩, hfailure⟩ := pickPreview_requests
  have herror := ((Preview.error_of_samples hlast).2 htext).1
  rw [hfailure] at herror
  exact ⟨data, hlast, htext, herror⟩

/-- What is wrong with a newer text is not always noted as before once another
sample has been given: the failure of an earlier one may have taken its
place. -/
theorem flag_of_newer_text_lost : ¬ ∀ (id : String) (settings : Settings) (supply : Supply)
    (markup style : Compiler) (contents : Shelf) (now : Nat) (deeds : List Deed) (n : Nat)
    (data : Json),
    let p := ((begin id settings supply markup style contents now).run Shelf.store deeds).preview
    (p.slot .script).text ≠ (p.slot .script).artifact →
      (p.samples n).getLast? = some (.ok data) →
        ((p.afterSamples n).slot .script).error = (p.slot .script).error := by
  intro h
  obtain ⟨htext, ⟨data, hlast⟩, hfailure⟩ := pickPreview_requests
  have herror : ((pickPreview.afterSamples 2).slot .script).error
      = (pickPreview.slot .script).error :=
    h "pick" { limits := threeValues } (pickSupply 0) .ok .ok [] 0 pickDeeds 2 data htext hlast
  rw [Preview.error_afterSamples htext, hfailure, pickPreview_flagged.2.2.1] at herror
  -- one of them points at a line, the other does not
  cases congrArg (·.bind StageError.line) herror

end Session

end MockupStudio
