/-
What compiling makes of a part.

* `Fixed`: what no step changes of a preview (`Preview.fixed_step`), and
  `Fixed.outcome`: what comes of compiling a text;
* `Preview.Shows`: a part shows what has come of its text;
* `Preview.shows_of_attempt?`, `Preview.Shows.of_step`: after a step that
  compiles its text a part shows what has come of it, and it still does after
  a step that neither compiles nor changes the text.
-/
import MockupStudio.Proofs.Preview.Facets

namespace MockupStudio

open Script

/-- What a preview has from its beginning to its end. -/
structure Fixed where
  id : String
  settings : Settings
  markup : Compiler
  style : Compiler

/-- What comes of compiling a text for a part, its artifact or an error; a
script takes its first sample from a supply. -/
def Fixed.outcome (fixed : Fixed) (supply : Supply) (text : String) :
    Stage → Except StageError String
  | .markup => (fixed.markup text).mapError (⟨.markup, ·, none⟩)
  | .style => (fixed.style text).mapError (⟨.style, ·, none⟩)
  | .script =>
    match Preview.produce fixed.settings.limits text supply with
    | .ok .. => .ok text
    | .error e _ => .error (Preview.scriptError e)

/-- The error of an outcome. -/
def complaint? : Except StageError String → Option StageError
  | .ok _ => none
  | .error e => some e

namespace Preview

/-- What a preview has from its beginning to its end. -/
def fixed (p : Preview) : Fixed := ⟨p.id, p.settings, p.markupCompiler, p.styleCompiler⟩

/-- A part shows what has come of compiling its text. Samples that are taken
later may replace the error of a script, but not its artifact. With which draws
it was compiled is left open; `Preview.slot_step` and `Preview.stock_step` say what
ran, and `Session.last_attempt_ran` says it of a whole run. -/
def Shows (p : Preview) (stage : Stage) : Prop :=
  ∃ supply, (∀ artifact, p.fixed.outcome supply (p.slot stage).text stage = .ok artifact →
      (p.slot stage).artifact = artifact)
    ∧ (stage ≠ .script → (p.slot stage).error
      = complaint? (p.fixed.outcome supply (p.slot stage).text stage))

/-- Parts with the same text show the same if artifact and error are the
same. -/
lemma Shows.congr {p q : Preview} {t : Stage} (h : p.Shows t) (hfixed : q.fixed = p.fixed)
    (htext : (q.slot t).text = (p.slot t).text)
    (hartifact : (q.slot t).artifact = (p.slot t).artifact)
    (herror : t ≠ .script → (q.slot t).error = (p.slot t).error) : q.Shows t := by
  obtain ⟨supply, hok, hcomplaint⟩ := h
  refine ⟨supply, ?_, fun ht => ?_⟩
  · rw [hfixed, htext, hartifact]
    exact hok
  · rw [hfixed, htext, herror ht]
    exact hcomplaint ht

/-! ### Compiling -/

section Compiling

variable (p : Preview) (stage t : Stage) (stages : List Stage)

@[simp] lemma slot_publish : p.publish.slot t = p.slot t := rfl

@[simp] lemma slot_deliver : p.deliver.slot t = p.slot t := rfl

@[simp] lemma slot_modifySlot (f : Slot → Slot) :
    (p.modifySlot stage f).slot t = if stage = t then f (p.slot t) else p.slot t := by
  simp only [slot, modifySlot, PerStage.get_modify]

lemma fixed_runStage : (p.runStage stage).2.fixed = p.fixed := by
  cases stage with
  | markup =>
    simp only [runStage, runSource]
    split <;> rfl
  | style =>
    simp only [runStage, runSource]
    split <;> rfl
  | script =>
    simp only [runStage, runScript]
    split <;> rfl

lemma slot_runStage_ne (h : stage ≠ t) : (p.runStage stage).2.slot t = p.slot t := by
  cases stage with
  | markup =>
    simp only [runStage, runSource]
    split <;> exact (slot_modifySlot ..).trans (if_neg h)
  | style =>
    simp only [runStage, runSource]
    split <;> exact (slot_modifySlot ..).trans (if_neg h)
  | script =>
    simp only [runStage, runScript]
    split <;> exact (slot_modifySlot ..).trans (if_neg h)

/-- A part whose artifact depends on its text alone shows what has come of
it. -/
lemma shows_runSource (compiler : Compiler)
    (h : ∀ supply, p.fixed.outcome supply (p.slot t).text t
      = (compiler (p.slot t).text).mapError (⟨t, ·, none⟩)) : (p.runSource t compiler).Shows t := by
  -- the text and what it is compiled by stay what they are
  have hsame (f : Slot → Slot) (hf : ∀ slot, (f slot).text = slot.text) (supply : Supply) :
      (p.modifySlot t f).fixed.outcome supply ((p.modifySlot t f).slot t).text t
        = (compiler (p.slot t).text).mapError (⟨t, ·, none⟩) := by
    rw [slot_modifySlot, if_pos rfl, hf, ← h supply]
    rfl
  rw [runSource]
  split
  · next artifact hcompile =>
    have houtcome := hsame (fun slot => slot.begun.applied artifact) (fun _ => rfl) p.supply
    rw [hcompile] at houtcome
    refine ⟨p.supply, fun result hok => ?_, fun _ => ?_⟩
    · rw [houtcome] at hok
      rw [slot_modifySlot, if_pos rfl]
      exact Except.ok.inj hok
    · rw [houtcome, slot_modifySlot, if_pos rfl]
      rfl
  · next message hcompile =>
    have houtcome := hsame (fun slot => slot.begun.failed ⟨t, message, none⟩) (fun _ => rfl) p.supply
    rw [hcompile] at houtcome
    refine ⟨p.supply, fun result hok => ?_, fun _ => ?_⟩
    · rw [houtcome] at hok
      cases hok
    · rw [houtcome, slot_modifySlot, if_pos rfl]
      rfl

lemma shows_runScript : p.runScript.2.Shows .script := by
  simp only [runScript]
  split
  · next program data supply h =>
    refine ⟨p.supply, fun artifact hok => ?_, fun hne => absurd rfl hne⟩
    change (match produce p.settings.limits p.slots.script.text p.supply with
      | .ok .. => .ok p.slots.script.text
      | .error e _ => .error (scriptError e) : Except StageError String) = .ok artifact at hok
    rw [h] at hok
    exact Except.ok.inj hok
  · next e supply h =>
    refine ⟨p.supply, fun artifact hok => ?_, fun hne => absurd rfl hne⟩
    change (match produce p.settings.limits p.slots.script.text p.supply with
      | .ok .. => .ok p.slots.script.text
      | .error e _ => .error (scriptError e) : Except StageError String) = .ok artifact at hok
    rw [h] at hok
    cases hok

/-- A part that has been compiled shows what has come of it. -/
lemma shows_runStage : (p.runStage t).2.Shows t := by
  cases t with
  | markup => exact shows_runSource p .markup p.markupCompiler fun _ => rfl
  | style => exact shows_runSource p .style p.styleCompiler fun _ => rfl
  | script => exact shows_runScript p

lemma fixed_runStages : (p.runStages stages).2.fixed = p.fixed := by
  induction stages generalizing p with
  | nil => rfl
  | cons stage stages ih =>
    simp only [runStages]
    rw [ih, fixed_runStage]

lemma slot_runStages_of_notMem (h : t ∉ stages) : (p.runStages stages).2.slot t = p.slot t := by
  induction stages generalizing p with
  | nil => rfl
  | cons stage stages ih =>
    simp only [runStages]
    rw [ih _ fun ht => h (List.mem_cons_of_mem _ ht), slot_runStage_ne]
    exact fun hstage => h (hstage ▸ List.mem_cons_self)

lemma shows_runStages (h : t ∈ stages) : (p.runStages stages).2.Shows t := by
  induction stages generalizing p with
  | nil => cases h
  | cons stage stages ih =>
    simp only [runStages]
    -- the last time the part is compiled counts
    by_cases ht : t ∈ stages
    · exact ih _ ht
    · obtain rfl : t = stage := (List.mem_cons.mp h).resolve_right ht
      have hslot := slot_runStages_of_notMem (p.runStage t).2 t stages ht
      exact (shows_runStage p t).congr (fixed_runStages _ _) (by rw [hslot]) (by rw [hslot])
        fun _ => by rw [hslot]

lemma apply_eq : ∃ published : Bool → Preview, p.apply stages = published (p.runStages stages).1
    ∧ ∀ new, (published new).fixed = (p.runStages stages).2.fixed
      ∧ ∀ t, (published new).slot t = (p.runStages stages).2.slot t :=
  ⟨fun new => if new then (p.runStages stages).2.publish.deliver else (p.runStages stages).2.publish,
    rfl, fun new => by cases new <;> exact ⟨rfl, fun _ => rfl⟩⟩

@[simp] lemma fixed_apply : (p.apply stages).fixed = p.fixed := by
  obtain ⟨published, happly, hsame⟩ := p.apply_eq stages
  rw [happly, (hsame _).1, fixed_runStages]

lemma slot_apply_of_notMem (h : t ∉ stages) : (p.apply stages).slot t = p.slot t := by
  obtain ⟨published, happly, hsame⟩ := p.apply_eq stages
  rw [happly, (hsame _).2, slot_runStages_of_notMem p t stages h]

lemma shows_apply (h : t ∈ stages) : (p.apply stages).Shows t := by
  obtain ⟨published, happly, hsame⟩ := p.apply_eq stages
  rw [happly]
  refine (shows_runStages p t stages h).congr (hsame _).1 ?_ ?_ fun _ => ?_ <;> rw [(hsame _).2]

end Compiling

/-! ### The ends of compile windows -/

section Windows

variable (p : Preview) (stage t : Stage) (stages : List Stage)

lemma fixed_compileFired (fired : Option Unit × Debounce Unit) :
    (p.compileFired stage fired).fixed = p.fixed := by
  rw [compileFired]
  split
  · rw [fixed_apply]
    rfl
  · rfl

/-- Nothing is shown anew of a part of which nothing fires. -/
lemma slot_compileFired (fired : Option Unit × Debounce Unit) (h : stage = t → fired.1 = none) :
    (p.compileFired stage fired).slot t = p.slot t := by
  rw [compileFired]
  split
  · next hsome =>
    have hne : stage ≠ t := fun hs => by
      rw [h hs] at hsome
      cases hsome
    rw [slot_apply_of_notMem _ _ _ fun ht => hne (List.mem_singleton.mp ht).symm]
    rfl
  · rfl

lemma shows_compileFired (fired : Option Unit × Debounce Unit) (h : fired.1.isSome) :
    (p.compileFired t fired).Shows t := by
  rw [compileFired, if_pos h]
  exact shows_apply _ _ _ List.mem_cons_self

lemma fst_flush_isSome : (p.compiles.get t).flush.1.isSome = (p.facet t).compile.isPending := by
  simp [Debounce.flush, Debounce.isPending, facet]

lemma fixed_flushCompiles : (stages.foldl flushCompile p).fixed = p.fixed := by
  induction stages generalizing p with
  | nil => rfl
  | cons stage stages ih => rw [List.foldl_cons, ih, flushCompile, fixed_compileFired]

lemma slot_flushCompiles (h : (p.facet t).compile.isPending = false) :
    (stages.foldl flushCompile p).slot t = p.slot t := by
  induction stages generalizing p with
  | nil => rfl
  | cons stage stages ih =>
    have hfacet : ((p.flushCompile stage).facet t).compile.isPending = false := by
      rw [flushCompile, facet_compileFired]
      split
      · rfl
      · exact h
    rw [List.foldl_cons, ih _ hfacet, flushCompile, slot_compileFired]
    intro hs
    rw [← Option.not_isSome_iff_eq_none, hs, fst_flush_isSome, h]
    exact Bool.false_ne_true

lemma shows_flushCompiles (ht : t ∈ stages) (h : (p.facet t).compile.isPending) :
    (stages.foldl flushCompile p).Shows t := by
  induction stages generalizing p with
  | nil => cases ht
  | cons stage stages ih =>
    rw [List.foldl_cons]
    by_cases hs : stage = t
    · subst hs
      have hfired : (p.flushCompile stage).Shows stage :=
        shows_compileFired p stage _ ((fst_flush_isSome p stage).trans h)
      have hidle : ((p.flushCompile stage).facet stage).compile.isPending = false := by
        rw [flushCompile, facet_compileFired, if_pos rfl]
        rfl
      have hslot := slot_flushCompiles _ _ stages hidle
      exact hfired.congr (fixed_flushCompiles _ stages) (by rw [hslot]) (by rw [hslot])
        fun _ => by rw [hslot]
    · have hfacet : (p.flushCompile stage).facet t = p.facet t := by
        rw [flushCompile, facet_compileFired, if_neg hs]
      refine ih _ ((List.mem_cons.mp ht).resolve_left (Ne.symm hs)) ?_
      rw [hfacet]
      exact h

/-- Flushing saves does nothing to slots and what is fixed. -/
lemma flush_eq : p.flush.fixed = (Stage.all.foldl flushCompile p).fixed
    ∧ p.flush.slot t = (Stage.all.foldl flushCompile p).slot t := by
  rw [flush]
  generalize Stage.all.foldl flushCompile p = q
  simp only [Stage.all, List.foldl_cons, List.foldl_nil]
  exact ⟨rfl, rfl⟩

end Windows

/-! ### Steps -/

section Steps

variable {p : Preview} {t : Stage} {step : Step}

/-- No step changes them. -/
lemma fixed_step (p : Preview) (step : Step) : (p.step step).fixed = p.fixed := by
  cases step with
  | load name sources =>
    rw [Preview.step, load, fixed_apply]
    rfl
  | edit now stage text =>
    rw [Preview.step, edit]
    split <;> rfl
  | compileNow stage =>
    rw [Preview.step, compileNow_snd, fixed_apply]
    rfl
  | refreshSample =>
    rw [Preview.step, refreshSample]
    split
    · rfl
    · split <;> rfl
  | setAutoReload stage enabled =>
    rw [Preview.step, setAutoReload]
    split
    · rw [fixed_apply]
      rfl
    · rfl
  | attach consumer =>
    rw [Preview.step, attach]
    split <;> rfl
  | flush => exact (flush_eq p .markup).1.trans (fixed_flushCompiles p Stage.all)
  | expire alarm time =>
    cases alarm with
    | compile stage => exact fixed_compileFired p stage _
    | save stage => rfl
  | saved outcome => cases outcome <;> rfl
  | _ => rfl

/-- After a step that compiles its text a part shows what has come of it. -/
theorem shows_of_attempt? (h : ((p.facet t).attempt? t step).isSome) : (p.step step).Shows t := by
  cases step with
  | load name sources => exact shows_apply _ _ _ (Stage.mem_all t)
  | compileNow stage =>
    have hs : stage = t := Decidable.byContradiction fun hs => by
      simp [Facet.attempt?, hs] at h
    rw [Preview.step, compileNow_snd]
    exact shows_apply _ _ _ (hs ▸ List.mem_cons_self)
  | setAutoReload stage enabled =>
    have hon : stage = t ∧ enabled ∧ (p.facet t).dirty := Decidable.byContradiction fun hs => by
      simp [Facet.attempt?, hs] at h
    obtain ⟨hs, henabled, hdirty⟩ := hon
    subst hs
    rw [Preview.step, setAutoReload]
    rw [if_pos (by rw [henabled]; exact hdirty)]
    exact shows_apply _ _ _ List.mem_cons_self
  | flush =>
    have hpending : (p.facet t).compile.isPending := Decidable.byContradiction fun hs => by
      simp [Facet.attempt?, hs] at h
    have hflush := flush_eq p t
    exact (shows_flushCompiles p t _ (Stage.mem_all t) hpending).congr hflush.1
      (congrArg _ hflush.2) (congrArg _ hflush.2) fun _ => congrArg _ hflush.2
  | expire alarm time =>
    cases alarm with
    | compile stage =>
      have hon : stage = t ∧ (p.facet t).compile.isPending := Decidable.byContradiction fun hs => by
        simp [Facet.attempt?, hs] at h
      obtain ⟨hs, hpending⟩ := hon
      subst hs
      exact shows_compileFired p stage _ ((fst_flush_isSome p stage).trans hpending)
    | save stage => cases h
  | _ => cases h

/-- A step that does not compile a part leaves its artifact alone, and its
error, samples of a script apart. -/
lemma slot_of_attempt?_eq_none (h : (p.facet t).attempt? t step = none) :
    ((p.step step).slot t).artifact = (p.slot t).artifact
      ∧ (t ≠ .script → ((p.step step).slot t).error = (p.slot t).error) := by
  have hsame {q : Preview} (hq : q.slot t = p.slot t) : (q.slot t).artifact = (p.slot t).artifact
      ∧ (t ≠ .script → (q.slot t).error = (p.slot t).error) := by
    rw [hq]
    exact ⟨rfl, fun _ => rfl⟩
  cases step with
  | load name sources => cases h
  | edit now stage text =>
    have hslot : (p.edit now stage text).slot t
        = (p.modifySlot stage (Slot.edited text)).slot t := by
      rw [edit]
      split <;> rfl
    rw [Preview.step, hslot, slot_modifySlot]
    split <;> exact ⟨rfl, fun _ => rfl⟩
  | compileNow stage =>
    have hs : stage ≠ t := fun hs => by simp [Facet.attempt?, hs] at h
    refine hsame ?_
    rw [Preview.step, compileNow_snd,
      slot_apply_of_notMem _ _ _ fun ht => hs (List.mem_singleton.mp ht).symm]
    rfl
  | refreshSample =>
    have hrefreshed (slot : Slot) : (refreshed slot).artifact = slot.artifact := by
      rw [refreshed]
      split <;> rfl
    rw [Preview.step, refreshSample]
    split
    · exact ⟨rfl, fun _ => rfl⟩
    · split
      · rw [slot_deliver, slot_publish, slot_modifySlot]
        split
        · next hs => exact ⟨hrefreshed _, fun ht => absurd hs.symm ht⟩
        · exact ⟨rfl, fun _ => rfl⟩
      · dsimp only
        rw [slot_publish, slot_modifySlot]
        split
        · next hs => exact ⟨rfl, fun ht => absurd hs.symm ht⟩
        · exact ⟨rfl, fun _ => rfl⟩
  | setAutoReload stage enabled =>
    have hswitched : (((p.modifySlot stage fun slot => { slot with autoReload := enabled
        }).cancelCompile stage).slot t).artifact = (p.slot t).artifact ∧ (t ≠ .script →
        (((p.modifySlot stage fun slot => { slot with autoReload := enabled }).cancelCompile
          stage).slot t).error = (p.slot t).error) := by
      change ((p.modifySlot stage _).slot t).artifact = _ ∧ (_ →
        ((p.modifySlot stage _).slot t).error = _)
      rw [slot_modifySlot]
      split <;> exact ⟨rfl, fun _ => rfl⟩
    rw [Preview.step, setAutoReload]
    split
    · next hon =>
      have hs : stage ≠ t := fun hs => by
        subst hs
        simp_all [Facet.attempt?, facet]
      rw [slot_apply_of_notMem _ _ _ fun ht => hs (List.mem_singleton.mp ht).symm]
      exact hswitched
    · exact hswitched
  | attach consumer =>
    refine hsame ?_
    rw [Preview.step, attach]
    split <;> rfl
  | flush =>
    have hidle : (p.facet t).compile.isPending = false := by
      rw [Bool.eq_false_iff]
      intro hpending
      simp [Facet.attempt?, hpending] at h
    exact hsame ((flush_eq p t).2.trans (slot_flushCompiles p t Stage.all hidle))
  | expire alarm time =>
    cases alarm with
    | compile stage =>
      refine hsame (slot_compileFired p stage t _ fun hs => ?_)
      subst hs
      rw [← Option.not_isSome_iff_eq_none]
      intro hpending
      have hpending := (fst_flush_isSome p stage).symm.trans hpending
      simp [Facet.attempt?, hpending] at h
    | save stage => exact hsame rfl
  | saved outcome => cases outcome <;> exact hsame rfl
  | _ => exact hsame rfl

/-- What a part shows stays current after a step that neither compiles nor
changes its text. -/
theorem Shows.of_step (h : p.Shows t) (hnone : (p.facet t).attempt? t step = none)
    (htext : ((p.step step).slot t).text = (p.slot t).text) : (p.step step).Shows t := by
  have hslot := slot_of_attempt?_eq_none hnone
  exact h.congr (fixed_step p step) htext hslot.1 hslot.2

end Steps

end Preview

end MockupStudio
