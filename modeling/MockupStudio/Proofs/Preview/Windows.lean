/-
What time does to a preview.

* `Preview.weight_expire`: every end of a window lowers the weight;
* `Session.lt_of_advance`: after time has passed no window is due any more;
* `Step.Passive`: what happens by itself; nothing else does while time
  passes (`Session.passive_of_advance`);
* `Session.now_le_run`, `Session.edit_le_now`: time does not go back, and no
  edit is in the future.
-/
import MockupStudio.Proofs.Preview.Facets

namespace MockupStudio

/-! ### Every end of a window lowers the weight -/

/-- How many windows of a part can still end. -/
def Facet.weight (f : Facet) : Nat := f.compile.weight + f.save.weight

namespace Preview

variable {p : Preview} {due : Nat} {alarm : Alarm}

lemma weight_eq (p : Preview) : p.weight
    = (p.facet .markup).weight + (p.facet .style).weight + (p.facet .script).weight := by
  simp only [weight, PerStage.toList, List.foldr_cons, List.foldr_nil, Facet.weight, facet,
    PerStage.get]
  omega

/-- What is due is a window of some part. -/
lemma mem_dues : (due, alarm) ∈ p.dues ↔ ∃ stage,
    (alarm = .compile stage ∧ (p.facet stage).compile.due? = some due)
      ∨ (alarm = .save stage ∧ (p.facet stage).save.due? = some due) := by
  simp only [dues, List.mem_append, List.mem_filterMap, Option.map_eq_some_iff, Prod.mk.injEq,
    Stage.mem_all, true_and, facet]
  constructor
  · rintro (⟨stage, d, hd, rfl, rfl⟩ | ⟨stage, d, hd, rfl, rfl⟩)
    · exact ⟨stage, .inl ⟨rfl, hd⟩⟩
    · exact ⟨stage, .inr ⟨rfl, hd⟩⟩
  · rintro ⟨stage, ⟨rfl, hd⟩ | ⟨rfl, hd⟩⟩
    · exact .inl ⟨stage, due, hd, rfl, rfl⟩
    · exact .inr ⟨stage, due, hd, rfl, rfl⟩

/-- A preview weighs less if one part does and the others weigh the same. -/
lemma weight_lt {q : Preview} (stage : Stage)
    (hlt : (q.facet stage).weight < (p.facet stage).weight)
    (heq : ∀ t, stage ≠ t → (q.facet t).weight = (p.facet t).weight) : q.weight < p.weight := by
  rw [weight_eq, weight_eq]
  cases stage with
  | markup =>
    have hstyle := heq .style (by decide)
    have hscript := heq .script (by decide)
    omega
  | style =>
    have hmarkup := heq .markup (by decide)
    have hscript := heq .script (by decide)
    omega
  | script =>
    have hmarkup := heq .markup (by decide)
    have hstyle := heq .style (by decide)
    omega

lemma weight_expire (h : p.next? = some (due, alarm)) :
    (p.expire alarm due).weight < p.weight := by
  have hfacet (t : Stage) : (p.expire alarm due).facet t
      = (p.facet t).step t (.expire alarm due) := facet_step p (.expire alarm due) t
  obtain ⟨stage, ⟨rfl, hdue⟩ | ⟨rfl, hdue⟩⟩ := mem_dues.mp (earliest?_mem h)
  · refine weight_lt stage ?_ fun t ht => ?_
    · have hlt := Debounce.weight_expire hdue
      rw [hfacet, Facet.step, if_pos rfl]
      exact Nat.add_lt_add_right hlt _
    · rw [hfacet, Facet.step, if_neg ht]
  · refine weight_lt stage ?_ fun t ht => ?_
    · have hlt := Rebounce.weight_expire due hdue
      rw [hfacet, Facet.step, if_pos rfl]
      exact Nat.add_lt_add_left hlt _
    · rw [hfacet, Facet.step, if_neg ht]

/-- Without a window that ends, or with the first one late enough, no window of
a part is due. -/
lemma lt_due_of_next? {time : Nat} (h : ∀ d a, p.next? = some (d, a) → time < d) (stage : Stage) :
    (∀ d, (p.facet stage).compile.due? = some d → time < d)
      ∧ ∀ d, (p.facet stage).save.due? = some d → time < d := by
  have hdues (d : Nat) (a : Alarm) (hmem : (d, a) ∈ p.dues) : time < d := by
    cases hnext : p.next? with
    | none =>
      rw [earliest?_eq_none hnext] at hmem
      cases hmem
    | some first =>
      calc time < first.1 := h first.1 first.2 hnext
        _ ≤ d := le_of_earliest? hnext (d, a) hmem
  refine ⟨fun d hd => ?_, fun d hd => ?_⟩
  · exact hdues d _ (mem_dues.mpr ⟨stage, .inl ⟨rfl, hd⟩⟩)
  · exact hdues d _ (mem_dues.mpr ⟨stage, .inr ⟨rfl, hd⟩⟩)

end Preview

/-! ### What happens by itself -/

/-- A step that happens by itself. -/
inductive Step.Passive : Step → Prop where
  | expire (alarm : Alarm) (time : Nat) : Passive (.expire alarm time)
  | handOver : Passive .handOver
  | saved (outcome : Except StoreError Unit) : Passive (.saved outcome)

namespace Session

variable {σ : Type} {store : DocumentStore σ} {moment : Timestamp} {s : Session σ}

lemma carry_cases {step : Step} (h : step ∈ s.carrySteps store moment) :
    step = .handOver ∨ ∃ outcome, step = .saved outcome := by
  rcases List.mem_cons.mp h with rfl | h
  · exact .inl rfl
  · obtain ⟨outcome, -, rfl⟩ := List.mem_map.mp h
    exact .inr ⟨outcome, rfl⟩

lemma passive_of_carry {step : Step} (h : step ∈ s.carrySteps store moment) : step.Passive := by
  rcases carry_cases h with rfl | ⟨outcome, rfl⟩
  · exact .handOver
  · exact .saved outcome

/-- Carrying saves out does nothing to the parts. -/
lemma facet_carryOut (stage : Stage) :
    (s.carryOut store moment).preview.facet stage = s.preview.facet stage := by
  rw [preview_carryOut, Preview.facet_steps]
  refine Facet.steps_induction (I := fun f => f = s.preview.facet stage) rfl fun g step h hg => ?_
  rcases carry_cases h with rfl | ⟨outcome, rfl⟩
  · exact hg
  · exact hg

lemma facet_flushed (stage : Stage) : (s.flush store moment).preview.facet stage
    = (s.preview.facet stage).step stage .flush := by
  rw [flush, facet_carryOut]
  exact Preview.facet_step s.preview .flush stage

lemma facet_reach (time : Nat) (stage : Stage) :
    (s.reach store moment time).preview.facet stage = s.preview.facet stage := by
  rw [reach]
  split
  · exact facet_carryOut stage
  · rfl

/-- Previews with the same parts have the same windows. -/
lemma next?_congr {p q : Preview} (h : ∀ stage, p.facet stage = q.facet stage) :
    p.next? = q.next? ∧ p.weight = q.weight := by
  have hcompile (stage : Stage) : p.compiles.get stage = q.compiles.get stage :=
    congrArg Facet.compile (h stage)
  have hsave (stage : Stage) : p.saves.get stage = q.saves.get stage :=
    congrArg Facet.save (h stage)
  constructor
  · simp only [Preview.next?, Preview.dues, hcompile, hsave]
  · simp only [Preview.weight_eq, h]

/-- With as many ends as the weight, every window that is due ends. -/
lemma lt_of_runUntil (time ends : Nat) (h : s.preview.weight ≤ ends) (d : Nat) (a : Alarm)
    (hnext : (runUntil store moment time ends s).preview.next? = some (d, a)) : time < d := by
  induction ends generalizing s with
  | zero =>
    have hlt := Preview.weight_expire hnext
    rw [runUntil] at hlt
    omega
  | succ ends ih =>
    rcases runUntil_cases store moment time ends s with
      ⟨due, alarm, hfirst, hrun, -⟩ | ⟨hidle, hrun, -⟩
    · have hfacet (t : Stage) : (s.reach store moment due).preview.facet t = s.preview.facet t :=
        facet_reach due t
      have hreach := next?_congr hfacet
      rw [hrun] at hnext
      refine ih (Nat.le_of_lt_succ ?_) hnext
      calc ((s.reach store moment due).preview.expire alarm due).weight
          < (s.reach store moment due).preview.weight :=
            Preview.weight_expire (hreach.1.trans hfirst)
        _ = s.preview.weight := hreach.2
        _ ≤ ends + 1 := h
    · rw [hrun] at hnext
      exact hidle d a hnext

/-- After time has passed, no window is due any more. -/
theorem lt_of_advance (span : Nat) (stage : Stage) :
    (∀ d, ((s.advance store moment span).preview.facet stage).compile.due? = some d →
        (s.advance store moment span).now < d)
      ∧ ∀ d, ((s.advance store moment span).preview.facet stage).save.due? = some d →
        (s.advance store moment span).now < d := by
  have hfacet : (s.advance store moment span).preview.facet stage
      = (runUntil store moment (s.now + span) s.preview.weight s).preview.facet stage :=
    facet_carryOut stage
  rw [hfacet]
  exact Preview.lt_due_of_next? (lt_of_runUntil _ _ (Nat.le_refl _)) stage

lemma passive_of_untilSteps {time ends : Nat} {step : Step}
    (h : step ∈ untilSteps store moment time ends s) : step.Passive := by
  induction ends generalizing s with
  | zero => cases h
  | succ ends ih =>
    rcases runUntil_cases store moment time ends s with
      ⟨due, alarm, -, -, hsteps⟩ | ⟨-, -, hsteps⟩
    · rw [hsteps] at h
      rcases List.mem_append.mp h with h | h
      · rw [reachSteps] at h
        split at h
        · exact passive_of_carry h
        · cases h
      · rcases List.mem_cons.mp h with rfl | h
        · exact .expire _ _
        · exact ih h
    · rw [hsteps] at h
      cases h

/-- While time passes, nothing happens but by itself. -/
lemma passive_of_advance {span : Nat} {step : Step}
    (h : step ∈ s.steps store (.advance moment span)) : step.Passive := by
  rcases List.mem_append.mp h with h | h
  · exact passive_of_untilSteps h
  · exact passive_of_carry h

/-! ### Time does not go back -/

lemma now_carryOut : (s.carryOut store moment).now = s.now := by
  have hfold (saves : List (Stage × String)) (s : Session σ) :
      (saves.foldl (carryOutOne store moment) s).now = s.now := by
    induction saves generalizing s with
    | nil => rfl
    | cons save saves ih =>
      rw [List.foldl_cons, ih, carryOutOne]
      split <;> rfl
  exact hfold _ _

/-- Time passes by what is let pass. -/
lemma now_perform (deed : Deed) : (s.perform store deed).now
    = s.now + match deed with
      | .advance _ span => span
      | _ => 0 := by
  cases deed with
  | openDocument =>
    simp only [perform, openDocument, onStore]
    split <;> rfl
  | rename =>
    simp only [perform, rename, onStore]
    split <;> rfl
  | save =>
    simp only [perform, save, onStore]
    split <;> rfl
  | flush => exact now_carryOut
  | _ => rfl

lemma now_le_run (deeds : List Deed) : s.now ≤ (s.run store deeds).now := by
  induction deeds generalizing s with
  | nil => exact Nat.le_refl _
  | cons deed deeds ih =>
    have hdeed : (s.perform store deed).now = _ := now_perform deed
    have hrun := ih (s := s.perform store deed)
    rw [run_cons]
    omega

lemma now_of_edit {deed : Deed} {now : Nat} {stage : Stage} {text : String}
    (h : .edit now stage text ∈ s.steps store deed) : now = s.now := by
  cases deed with
  | edit stage' text' =>
    cases List.mem_singleton.mp h
    rfl
  | openDocument =>
    rw [steps] at h
    split at h <;> simp at h
  | rename =>
    rw [steps] at h
    split at h <;> simp at h
  | flush =>
    rcases List.mem_cons.mp h with h | h
    · cases h
    · rcases carry_cases h with h | ⟨_, h⟩ <;> cases h
  | advance => cases passive_of_advance h
  | save => cases h
  | _ => cases List.mem_singleton.mp h

/-- No edit of a run is later than its end. -/
lemma edit_le_now {deeds : List Deed} {now : Nat} {stage : Stage} {text : String}
    (h : .edit now stage text ∈ s.runSteps store deeds) : now ≤ (s.run store deeds).now := by
  induction deeds generalizing s with
  | nil => cases h
  | cons deed deeds ih =>
    rw [run_cons]
    rcases List.mem_append.mp h with h | h
    · have hdeed : (s.perform store deed).now = _ := now_perform deed
      have hrun : _ ≤ ((s.perform store deed).run store deeds).now := now_le_run deeds
      rw [now_of_edit h]
      omega
    · exact ih h

end Session

end MockupStudio
