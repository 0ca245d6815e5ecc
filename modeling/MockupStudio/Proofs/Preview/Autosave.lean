/-
No autosave is lost.

* `Facet.Safe`: what is waiting to be saved is the text of the part, and if
  nothing is waiting, the text has been handed over last; every step but a
  load keeps it;
* `Preview.handed`, `Preview.issued`: the saves that steps hand over to the
  store, and with them those that have been started;
* `Session.Writes`: what a run hands over gets into the store, one after the
  other;
* `Session.saved_or_waiting`: all runs of an opened document.
-/
import MockupStudio.Proofs.Preview.Artifacts
import MockupStudio.Proofs.Preview.Windows
import MockupStudio.Proofs.Store.Texts
import Mathlib

namespace MockupStudio

open Script

/-! ### One part -/

namespace Facet

variable {f : Facet} {stage : Stage} {last : String}

/-- What is waiting to be saved is the text of the part and waits for the end of
a window; if nothing is waiting, the text is the one handed over last. -/
def Safe (last : String) (f : Facet) : Prop :=
  match f.save.pending with
  | some text => text = f.text ∧ f.save.isCooling
  | none => last = f.text

lemma Safe.congr {g : Facet} (h : f.Safe last) (hsave : g.save = f.save) (htext : g.text = f.text) :
    g.Safe last := by
  rw [Safe, hsave, htext]
  exact h

lemma Safe.edited (h : f.Safe last) (now : Nat) (text : String) :
    (f.edited now text).Safe ((f.save.call now text).1.getD last) := by
  cases hcooling : f.save.cooling with
  | some due =>
    -- the text waits in place of the one before
    simp [Safe, Facet.edited, Rebounce.call, hcooling, Rebounce.isCooling]
  | none =>
    have hpending : f.save.pending = none := by
      cases hpending : f.save.pending with
      | none => rfl
      | some waiting => simp [Safe, hpending, Rebounce.isCooling, hcooling] at h
    simp [Safe, Facet.edited, Rebounce.call, hcooling, hpending]

lemma Safe.flushed (h : f.Safe last) :
    ({ f with save := f.save.flush.2 } : Facet).Safe (f.save.flush.1.getD last) := by
  cases hpending : f.save.pending with
  | none =>
    rw [Safe, hpending] at h
    simpa [Safe, Rebounce.flush, hpending] using h
  | some text =>
    rw [Safe, hpending] at h
    simpa [Safe, Rebounce.flush, hpending] using h.1

lemma Safe.expired (h : f.Safe last) (time : Nat) :
    ({ f with save := (f.save.expire time).2 } : Facet).Safe
      ((f.save.expire time).1.getD last) := by
  cases hpending : f.save.pending with
  | none =>
    rw [Safe, hpending] at h
    simpa [Safe, Rebounce.expire, hpending] using h
  | some text =>
    rw [Safe, hpending] at h
    simpa [Safe, Rebounce.expire, hpending] using h.1

/-- Every step but a load keeps it. -/
lemma Safe.step (h : f.Safe last) {s : Step} (hs : ∀ name sources, s ≠ .load name sources) :
    (f.step stage s).Safe ((f.fires stage s).getD last) := by
  cases s with
  | load name sources => exact absurd rfl (hs name sources)
  | edit now t text =>
    rw [Facet.step, fires]
    split
    · exact h.edited now text
    · exact h
  | compileNow t =>
    rw [Facet.step]
    split
    · exact h.congr rfl rfl
    · exact h
  | setAutoReload t enabled =>
    rw [Facet.step]
    split
    · exact h.congr rfl rfl
    · exact h
  | flush => exact (h.congr rfl rfl : f.settled.Safe last).flushed
  | expire alarm time =>
    cases alarm with
    | compile t =>
      rw [Facet.step]
      split
      · exact h.congr rfl rfl
      · exact h
    | save t =>
      rw [Facet.step, fires]
      split
      · exact h.expired time
      · exact h
  | _ => exact h

lemma Safe.steps (h : f.Safe last) {taken : List Step}
    (htaken : ∀ s ∈ taken, ∀ name sources, s ≠ .load name sources) :
    (f.steps stage taken).Safe ((f.fired stage taken).getLast?.getD last) := by
  induction taken generalizing f last with
  | nil => exact h
  | cons s taken ih =>
    have hlast : (f.fired stage (s :: taken)).getLast?.getD last
        = ((f.step stage s).fired stage taken).getLast?.getD ((f.fires stage s).getD last) := by
      rw [fired, List.getLast?_append, Option.getD_or]
      cases f.fires stage s <;> rfl
    rw [hlast]
    exact ih (h.step (htaken s List.mem_cons_self)) fun t ht => htaken t (List.mem_cons_of_mem _ ht)

lemma Safe.last_or_waiting (h : f.Safe last) :
    last = f.text ∨ (f.save.pending = some f.text ∧ f.save.isCooling) := by
  rw [Safe] at h
  split at h
  · next text hpending => exact .inr ⟨h.1 ▸ hpending, h.2⟩
  · exact .inl h

end Facet

/-! ### Saves that are handed over -/

/-- Texts after some saves, one after the other. -/
def Sources.written (sources : Sources) (saves : List (Stage × String)) : Sources :=
  saves.foldl (fun sources save => sources.set save.1 save.2) sources

/-- The last save of a part counts. -/
lemma Sources.get_written (sources : Sources) (saves : List (Stage × String)) (stage : Stage) :
    (sources.written saves).get stage
      = (Preview.textsOf stage saves).getLast?.getD (sources.get stage) := by
  induction saves generalizing sources with
  | nil => rfl
  | cons save saves ih =>
    calc (sources.written (save :: saves)).get stage
        = (Sources.written (sources.set save.1 save.2) saves).get stage := rfl
      _ = (Preview.textsOf stage saves).getLast?.getD
            (if save.1 = stage then save.2 else sources.get stage) := by
          rw [ih, PerStage.get_set]
      _ = (Preview.textsOf stage (save :: saves)).getLast?.getD (sources.get stage) := by
          rw [← List.singleton_append, Preview.textsOf_append, List.getLast?_append,
            Option.getD_or]
          by_cases h : save.1 = stage <;> simp [Preview.textsOf, h]

namespace Preview

variable {p : Preview}

/-- The saves that some steps hand over to the store, one after the other. -/
def handed : Preview → List Step → List (Stage × String)
  | _, [] => []
  | p, .handOver :: taken => p.started ++ handed (p.step .handOver) taken
  | p, s :: taken => handed (p.step s) taken

/-- The saves that have been started after some steps, whether they have been
handed over or not yet. -/
def issued (p : Preview) (taken : List Step) : List (Stage × String) :=
  p.handed taken ++ (p.steps taken).started

lemma handed_cons {s : Step} (h : s ≠ .handOver) (taken : List Step) :
    p.handed (s :: taken) = (p.step s).handed taken := by
  cases s with
  | handOver => exact absurd rfl h
  | _ => rfl

lemma handed_append (taken more : List Step) :
    p.handed (taken ++ more) = p.handed taken ++ (p.steps taken).handed more := by
  induction taken generalizing p with
  | nil => rfl
  | cons s taken ih =>
    by_cases h : s = .handOver
    · subst h
      rw [List.cons_append, handed, ih, handed, List.append_assoc, steps_cons]
    · rw [List.cons_append, handed_cons h, ih, handed_cons h, steps_cons]

/-- What is issued of a part is what the part fires. -/
lemma textsOf_issued (taken : List Step) (stage : Stage) : textsOf stage (p.issued taken)
    = textsOf stage p.started ++ (p.facet stage).fired stage taken := by
  induction taken generalizing p with
  | nil => simp [issued, handed, Facet.fired]
  | cons s taken ih =>
    by_cases h : s = .handOver
    · subst h
      have hissued : p.issued (.handOver :: taken)
          = p.started ++ (p.step .handOver).issued taken := List.append_assoc ..
      have hempty : textsOf stage (p.step .handOver).started = [] := rfl
      rw [hissued, textsOf_append, ih, hempty, facet_step]
      rfl
    · calc textsOf stage (p.issued (s :: taken))
          = textsOf stage ((p.step s).issued taken) := by
            rw [issued, handed_cons h]
            rfl
        _ = textsOf stage p.started ++ (((p.facet stage).fires stage s).toList
              ++ ((p.step s).facet stage).fired stage taken) := by
            rw [ih, started_step p h, List.append_assoc]
        _ = textsOf stage p.started ++ (p.facet stage).fired stage (s :: taken) := by
            rw [facet_step]
            rfl

end Preview

/-! ### Runs over a store -/

/-- Whether a step is anything but a save that fails. -/
def Step.succeeds : Step → Bool
  | .saved (.error _) => false
  | _ => true

/-- Whether a deed leaves the document alone but for edits and their saves. -/
def Deed.isEditing : Deed → Bool
  | .load .. | .openDocument | .rename .. | .save _ => false
  | _ => true

namespace Preview

lemma id_steps (p : Preview) (taken : List Step) : (p.steps taken).id = p.id := by
  induction taken generalizing p with
  | nil => rfl
  | cons s taken ih => exact (ih _).trans (congrArg Fixed.id (fixed_step p s))

end Preview

namespace Session

variable {σ : Type} {store : DocumentStore σ} {moment : Timestamp} {holds : σ → Sources → Prop}
  {s s' s'' : Session σ} {taken more : List Step}

/-- One session comes of another by some steps, and what they hand over gets
into the store if no save fails. -/
def Writes (holds : σ → Sources → Prop) (s s' : Session σ) (taken : List Step) : Prop :=
  s'.preview = s.preview.steps taken ∧ ∀ sources, holds s.contents sources →
    (∀ step ∈ taken, step.succeeds) → holds s'.contents (sources.written (s.preview.handed taken))

lemma Writes.id (h : s.Writes holds s' taken) : s'.preview.id = s.preview.id := by
  rw [h.1, Preview.id_steps]

lemma Writes.refl : s.Writes holds s [] := ⟨rfl, fun _ h _ => h⟩

lemma Writes.trans (h : s.Writes holds s' taken) (h' : s'.Writes holds s'' more) :
    s.Writes holds s'' (taken ++ more) := by
  refine ⟨?_, fun sources hholds hok => ?_⟩
  · rw [h'.1, h.1, Preview.steps_append]
  · have hfirst := h.2 sources hholds fun step hstep => hok step (List.mem_append_left _ hstep)
    have hboth := h'.2 _ hfirst fun step hstep => hok step (List.mem_append_right _ hstep)
    rw [h.1] at hboth
    rw [Preview.handed_append, Sources.written, List.foldl_append]
    exact hboth

/-- A step of the preview hands nothing over. -/
lemma writes_step (step : Step) (h : step ≠ .handOver) :
    s.Writes holds (s.modify fun p => p.step step) [step] := by
  refine ⟨rfl, fun sources hholds _ => ?_⟩
  rw [Preview.handed_cons h]
  exact hholds

lemma handed_carrySteps : s.preview.handed (s.carrySteps store moment) = s.preview.started := by
  have hsaved (p : Preview) (saves : List (Except StoreError Unit)) :
      p.handed (saves.map .saved) = [] := by
    induction saves generalizing p with
    | nil => rfl
    | cons outcome saves ih => exact ih _
  rw [carrySteps, Preview.handed, hsaved, List.append_nil]

lemma holds_saves (hkeeps : store.Keeps s.preview.id holds) (saves : List (Stage × String))
    (hok : ∀ outcome ∈ outcomes store moment s.preview.id saves s.contents,
      (Step.saved outcome).succeeds)
    {sources : Sources} (h : holds s.contents sources) :
    holds (saves.foldl (carryOutOne store moment) s).contents (sources.written saves) := by
  induction saves generalizing s sources with
  | nil => exact h
  | cons save saves ih =>
    rw [outcomes] at hok
    rw [List.foldl_cons, carryOutOne]
    cases hsave : store.saveField moment s.preview.id save.1 save.2 s.contents with
    | ok done contents =>
      rw [hsave] at hok
      exact ih (s := { s with contents }) hkeeps (fun outcome houtcome => hok outcome (List.mem_cons_of_mem _ houtcome))
        (hkeeps.saveField h hsave)
    | error e contents =>
      rw [hsave] at hok
      cases hok _ List.mem_cons_self

/-- Saves that are carried out get into the store. -/
lemma writes_carryOut (hkeeps : store.Keeps s.preview.id holds) :
    s.Writes holds (s.carryOut store moment) (s.carrySteps store moment) := by
  refine ⟨preview_carryOut s, fun sources hholds hok => ?_⟩
  rw [handed_carrySteps]
  refine holds_saves (s := s.modify fun p => { p with started := [] }) hkeeps _ ?_ hholds
  intro outcome houtcome
  exact hok _ (List.mem_cons_of_mem _ (List.mem_map_of_mem houtcome))

lemma writes_reach (hkeeps : store.Keeps s.preview.id holds) (time : Nat) :
    s.Writes holds (s.reach store moment time) (s.reachSteps store moment time) := by
  rw [reach, reachSteps]
  split
  · exact writes_carryOut hkeeps
  · exact Writes.refl

lemma writes_runUntil (hkeeps : store.Keeps s.preview.id holds) (time ends : Nat) :
    s.Writes holds (runUntil store moment time ends s)
      (untilSteps store moment time ends s) := by
  induction ends generalizing s with
  | zero => exact Writes.refl
  | succ ends ih =>
    rcases runUntil_cases store moment time ends s with
      ⟨due, alarm, -, hrun, hsteps⟩ | ⟨-, hrun, hsteps⟩
    · have hreach : s.Writes holds (s.reach store moment due) (s.reachSteps store moment due) :=
        writes_reach hkeeps due
      have hexpire := hreach.trans (writes_step (.expire alarm due) (by simp))
      rw [← hexpire.id] at hkeeps
      rw [hrun, hsteps, ← List.singleton_append, ← List.append_assoc]
      exact hexpire.trans (ih hkeeps)
    · rw [hrun, hsteps]
      exact Writes.refl

/-- What is handed over by editing gets into the store. -/
lemma writes_perform (hkeeps : store.Keeps s.preview.id holds) {deed : Deed}
    (hdeed : deed.isEditing) : s.Writes holds (s.perform store deed) (s.steps store deed) := by
  cases deed with
  | flush moment =>
    have hflush : s.Writes holds (s.modify Preview.flush) [.flush] := writes_step .flush (by simp)
    rw [← hflush.id] at hkeeps
    exact hflush.trans (writes_carryOut hkeeps)
  | advance moment span =>
    have huntil : s.Writes holds _ (untilSteps store moment (s.now + span) s.preview.weight s) :=
      writes_runUntil hkeeps (s.now + span) s.preview.weight
    rw [← huntil.id] at hkeeps
    exact huntil.trans (writes_carryOut hkeeps)
  | edit stage text => exact writes_step (.edit s.now stage text) (by simp)
  | compileNow stage => exact writes_step (.compileNow stage) (by simp)
  | refreshSample => exact writes_step .refreshSample (by simp)
  | setAutoReload stage enabled => exact writes_step (.setAutoReload stage enabled) (by simp)
  | attach consumer => exact writes_step (.attach consumer) (by simp)
  | takeNotices => exact writes_step .takeNotices (by simp)
  | load | openDocument | rename | save => cases hdeed

lemma writes_run (hkeeps : store.Keeps s.preview.id holds) {deeds : List Deed}
    (hdeeds : ∀ deed ∈ deeds, deed.isEditing) :
    s.Writes holds (s.run store deeds) (s.runSteps store deeds) := by
  induction deeds generalizing s with
  | nil => exact Writes.refl
  | cons deed deeds ih =>
    have hdeed := writes_perform hkeeps (hdeeds deed List.mem_cons_self)
    rw [← hdeed.id] at hkeeps
    exact hdeed.trans (ih hkeeps fun deed h => hdeeds deed (List.mem_cons_of_mem _ h))

/-! ### Runs of an opened document -/

lemma started_carryOut : (s.carryOut store moment).preview.started = [] := by
  have hsaved (p : Preview) (saves : List (Except StoreError Unit)) :
      (p.steps (saves.map .saved)).started = p.started := by
    induction saves generalizing p with
    | nil => rfl
    | cons outcome saves ih =>
      rw [List.map_cons, Preview.steps_cons, ih]
      cases outcome <;> rfl
  rw [preview_carryOut, carrySteps, Preview.steps_cons, hsaved]
  rfl

lemma ne_load_of_isEditing {deed : Deed} (hdeed : deed.isEditing) {step : Step}
    (h : step ∈ s.steps store deed) (name : String) (sources : Sources) :
    step ≠ .load name sources := by
  rintro rfl
  cases deed with
  | flush moment =>
    rcases List.mem_cons.mp h with h | h
    · cases h
    · rcases carry_cases h with h | ⟨_, h⟩ <;> cases h
  | advance moment span => cases passive_of_advance h
  | load | openDocument | rename | save => cases hdeed
  | _ => cases List.mem_singleton.mp h

lemma ne_load_of_run {deeds : List Deed} (hdeeds : ∀ deed ∈ deeds, deed.isEditing) {step : Step}
    (h : step ∈ s.runSteps store deeds) (name : String) (sources : Sources) :
    step ≠ .load name sources := by
  induction deeds generalizing s with
  | nil => cases h
  | cons deed deeds ih =>
    rcases List.mem_append.mp h with h | h
    · exact ne_load_of_isEditing (hdeeds deed List.mem_cons_self) h name sources
    · exact ih (fun deed h => hdeeds deed (List.mem_cons_of_mem _ h)) h

section Opened

variable {start : Session σ} {document : Document} {contents : σ} {deeds : List Deed}

lemma perform_openDocument
    (hopen : store.get start.preview.id start.contents = .ok document contents) :
    start.perform store .openDocument
      = { start with contents, preview := start.preview.load document.name document.sources } := by
  rw [perform, openDocument, onStore, hopen]

/-- The parts of a document just opened need no save. -/
lemma safe_load (p : Preview) (name : String) (sources : Sources) (stage : Stage) :
    ((p.load name sources).facet stage).Safe (sources.get stage) := by
  rw [Preview.facet_load]
  rfl

/-- The text of the save of a part that has been started last, or else the text
the part was opened with. -/
def lastIssued (s : Session σ) (document : Document) (taken : List Step) (stage : Stage) : String :=
  (Preview.textsOf stage (s.preview.issued taken)).getLast?.getD (document.sources.get stage)

lemma safe_steps (hidle : start.preview.started = [])
    (hopen : store.get start.preview.id start.contents = .ok document contents)
    (hdeeds : ∀ deed ∈ deeds, deed.isEditing) {taken : List Step}
    (htaken : taken <+: (start.perform store .openDocument).runSteps store deeds) (stage : Stage) :
    (((start.perform store .openDocument).preview.steps taken).facet stage).Safe
      ((start.perform store .openDocument).lastIssued document taken stage) := by
  have hsafe : ((start.perform store .openDocument).preview.facet stage).Safe
      (document.sources.get stage) := by
    rw [perform_openDocument hopen]
    exact safe_load _ _ _ stage
  have hstarted : (start.perform store .openDocument).preview.started = [] := by
    rw [perform_openDocument hopen]
    exact (Preview.started_load _ _ _).trans hidle
  rw [lastIssued, Preview.textsOf_issued, hstarted, Preview.facet_steps]
  exact hsafe.steps fun step hstep => ne_load_of_run hdeeds (htaken.subset hstep)

/-- What has been handed over is in the store. -/
lemma get_of_run (hkeeps : store.Keeps start.preview.id holds)
    (hopen : store.get start.preview.id start.contents = .ok document contents)
    (hdeeds : ∀ deed ∈ deeds, deed.isEditing)
    (hsaved : ∀ step ∈ (start.perform store .openDocument).runSteps store deeds, step.succeeds) :
    let s := start.perform store .openDocument
    ∃ kept contents', store.get start.preview.id (s.run store deeds).contents = .ok kept contents'
      ∧ kept.sources = document.sources.written (s.preview.handed (s.runSteps store deeds)) := by
  intro s
  have hopened : s = { start with
      contents, preview := start.preview.step (.load document.name document.sources) } :=
    perform_openDocument hopen
  have hid : s.preview.id = start.preview.id := by
    rw [hopened]
    exact congrArg Fixed.id (Preview.fixed_step _ _)
  have hholds : holds s.contents document.sources := by
    rw [hopened]
    exact hkeeps.of_get hopen
  have hwrites : s.Writes holds (s.run store deeds) (s.runSteps store deeds) :=
    writes_run (hid ▸ hkeeps) hdeeds
  exact hkeeps.get (hwrites.2 _ hholds hsaved)

/-- After a flush the texts are those of the saves that have been handed over. -/
lemma sources_of_flush (hidle : start.preview.started = [])
    (hopen : store.get start.preview.id start.contents = .ok document contents)
    {moment : Timestamp} (hdeeds : ∀ deed ∈ deeds ++ [.flush moment], deed.isEditing) :
    let s := start.perform store .openDocument
    (s.run store (deeds ++ [.flush moment])).preview.sources = document.sources.written
      (s.preview.handed (s.runSteps store (deeds ++ [.flush moment]))) := by
  intro s
  have hrun : s.run store (deeds ++ [.flush moment]) = (s.run store deeds).flush store moment := by
    rw [run_append]
    rfl
  have hstarted : (s.preview.steps (s.runSteps store (deeds ++ [.flush moment]))).started = [] := by
    rw [← preview_run, hrun]
    exact started_carryOut
  refine PerStage.ext_get fun stage => ?_
  have hsafe := safe_steps hidle hopen hdeeds (List.prefix_refl _) stage
  have hpending : ((s.run store (deeds ++ [.flush moment])).preview.facet stage).save.pending
      = none := by
    rw [hrun, facet_flushed]
    rfl
  rw [← preview_run, Facet.Safe, hpending] at hsafe
  calc (s.run store (deeds ++ [.flush moment])).preview.sources.get stage
      = ((s.run store (deeds ++ [.flush moment])).preview.facet stage).text := by
        rw [Preview.sources, PerStage.get_map]
        rfl
    _ = s.lastIssued document (s.runSteps store (deeds ++ [.flush moment])) stage := hsafe.symm
    _ = (document.sources.written
          (s.preview.handed (s.runSteps store (deeds ++ [.flush moment])))).get stage := by
        rw [Sources.get_written, lastIssued, Preview.issued, hstarted, List.append_nil]

/-- Of a document that has been opened, in every state of a run the text of a
part is the one handed over last, or the one it was opened with, or else it
waits for the end of a window to be saved. What has been handed over is in the
store if no save fails, and after a flush that is all there is in the editor. -/
theorem saved_or_waiting (hkeeps : store.Keeps start.preview.id holds)
    (hidle : start.preview.started = [])
    (hopen : store.get start.preview.id start.contents = .ok document contents)
    (hdeeds : ∀ deed ∈ deeds, deed.isEditing)
    (hsaved : ∀ step ∈ (start.perform store .openDocument).runSteps store deeds, step.succeeds) :
    let s := start.perform store .openDocument
    (∀ taken stage, taken <+: s.runSteps store deeds →
      let p := s.preview.steps taken
      s.lastIssued document taken stage = (p.slot stage).text
        ∨ ((p.saves.get stage).pending = some (p.slot stage).text
          ∧ (p.saves.get stage).isCooling))
      ∧ (∃ kept contents', store.get start.preview.id (s.run store deeds).contents
          = .ok kept contents'
        ∧ kept.sources = document.sources.written (s.preview.handed (s.runSteps store deeds)))
      ∧ ∀ earlier moment, deeds = earlier ++ [.flush moment] →
        ∃ kept contents', store.get start.preview.id (s.run store deeds).contents
            = .ok kept contents'
          ∧ kept.sources = (s.run store deeds).preview.sources := by
  refine ⟨fun taken stage htaken => ?_, get_of_run hkeeps hopen hdeeds hsaved, ?_⟩
  · exact (safe_steps hidle hopen hdeeds htaken stage).last_or_waiting
  · rintro earlier moment rfl
    obtain ⟨kept, contents', hget, hkept⟩ := get_of_run hkeeps hopen hdeeds hsaved
    exact ⟨kept, contents', hget, hkept.trans (sources_of_flush hidle hopen hdeeds).symm⟩

end Opened

/-- A note to be edited. -/
def note : Document := ⟨"note", "Note", default, ⟨"<p>", "", "return 1;"⟩⟩

/-- A session with the note on a shelf. -/
def noteSession : Session Shelf := begin note.id {} default .ok .ok [(note.id, note)] 0

/-- An edit while a save is waiting, one after its window, and a flush. -/
def noteDeeds : List Deed :=
  [.edit .style "a", .edit .style "b", .advance default 1500, .edit .style "c", .flush default]

set_option maxRecDepth 4096 in
lemma succeeds_noteDeeds : ∀ step ∈ (noteSession.perform Shelf.store .openDocument).runSteps
    Shelf.store noteDeeds, step.succeeds := by
  rw [← List.all_eq_true]
  cbv

/-- The note is in the store as it has been edited. -/
theorem note_saved_or_waiting : ∃ kept contents',
    Shelf.store.get note.id ((noteSession.perform Shelf.store .openDocument).run
        Shelf.store noteDeeds).contents = .ok kept contents'
      ∧ kept.sources = ((noteSession.perform Shelf.store .openDocument).run
        Shelf.store noteDeeds).preview.sources := by
  have hopen : Shelf.store.get noteSession.preview.id noteSession.contents
      = .ok note noteSession.contents :=
    Shelf.find_eq_ok.mpr ⟨by decide +kernel, rfl, rfl⟩
  have hdeeds : ∀ deed ∈ noteDeeds, deed.isEditing := by decide
  exact (saved_or_waiting (Shelf.store_keeps _) rfl hopen hdeeds succeeds_noteDeeds).2.2
    [.edit .style "a", .edit .style "b", .advance default 1500, .edit .style "c"] default rfl

end Session

end MockupStudio
