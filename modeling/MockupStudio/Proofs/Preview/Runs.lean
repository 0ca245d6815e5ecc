/-
Runs of a preview.

* `Deed`: what is asked of a preview at work; `Session.perform` does it and
  `Session.run` one after the other, from a session just begun,
  `Session.begin`;
* `Step`: what happens to the preview alone; `Preview.step`;
* `Session.steps`, `Session.runSteps`: what a deed and a run come to;
  `Session.preview_run` says that they determine the preview.

The passing of time comes to ends of windows, each at its time, and to saves
that are carried out; `Session.runUntil_cases` is one turn of that loop.
-/
import MockupStudio.Preview.Session
import Mathlib.Tactic.Lemma

namespace MockupStudio

open Script

/-! ### What happens to a preview -/

/-- What happens to a preview. -/
inductive Step where
  | load (name : String) (sources : Sources)
  | edit (now : Nat) (stage : Stage) (text : String)
  | compileNow (stage : Stage)
  | refreshSample
  | setAutoReload (stage : Stage) (enabled : Bool)
  | attach (consumer : Consumer)
  | rename (name : String)
  | flush
  | takeNotices
  /-- The end of a window at a time. -/
  | expire (alarm : Alarm) (time : Nat)
  /-- The saves that have been started are taken to be carried out. -/
  | handOver
  | saved (outcome : Except StoreError Unit)

namespace Preview

/-- The preview after a step. -/
def step (p : Preview) : Step → Preview
  | .load name sources => p.load name sources
  | .edit now stage text => p.edit now stage text
  | .compileNow stage => (p.compileNow stage).2
  | .refreshSample => p.refreshSample.2
  | .setAutoReload stage enabled => p.setAutoReload stage enabled
  | .attach consumer => (p.attach consumer).2
  | .rename name => { p with name }
  | .flush => p.flush
  | .takeNotices => p.takeNotices.2
  | .expire alarm time => p.expire alarm time
  | .handOver => { p with started := [] }
  | .saved outcome => p.saved outcome

/-- The preview after some steps. -/
def steps (p : Preview) (taken : List Step) : Preview := taken.foldl step p

@[simp] lemma steps_nil (p : Preview) : p.steps [] = p := rfl

@[simp] lemma steps_cons (p : Preview) (step : Step) (taken : List Step) :
    p.steps (step :: taken) = (p.step step).steps taken := rfl

@[simp] lemma steps_append (p : Preview) (taken more : List Step) :
    p.steps (taken ++ more) = (p.steps taken).steps more := List.foldl_append

/-- What every step keeps holds after any number of steps. -/
lemma steps_induction {I : Preview → Prop} {p : Preview} (hp : I p)
    (h : ∀ q step, I q → I (q.step step)) (taken : List Step) : I (p.steps taken) := by
  induction taken generalizing p with
  | nil => exact hp
  | cons step taken ih => exact ih (h p step hp)

end Preview

/-! ### What is done with a session -/

/-- What is asked of a preview at work. What reaches the store is given a
reading of the clock. -/
inductive Deed where
  | load (name : String) (sources : Sources)
  | openDocument
  | edit (stage : Stage) (text : String)
  | compileNow (stage : Stage)
  | refreshSample
  | setAutoReload (stage : Stage) (enabled : Bool)
  | attach (consumer : Consumer)
  | rename (moment : Timestamp) (name : String)
  | save (moment : Timestamp)
  | flush (moment : Timestamp)
  | takeNotices
  | advance (moment : Timestamp) (span : Nat)

namespace Session

variable {σ : Type}

/-- A session just begun. -/
def begin (id : String) (settings : Settings) (supply : Supply) (markup style : Compiler)
    (contents : σ) (now : Nat) : Session σ where
  preview := { Preview.create id settings supply with
    markupCompiler := markup, styleCompiler := style }
  contents := contents
  now := now

/-- Does what is asked. -/
def perform (store : DocumentStore σ) (s : Session σ) : Deed → Session σ
  | .load name sources => s.modify (Preview.load name sources)
  | .openDocument => (s.openDocument store).2
  | .edit stage text => s.modify (Preview.edit s.now stage text)
  | .compileNow stage => s.modify fun p => (p.compileNow stage).2
  | .refreshSample => s.modify fun p => p.refreshSample.2
  | .setAutoReload stage enabled => s.modify (Preview.setAutoReload stage enabled)
  | .attach consumer => s.modify fun p => (p.attach consumer).2
  | .rename moment name => (s.rename store moment name).2
  | .save moment => (s.save store moment).2
  | .flush moment => s.flush store moment
  | .takeNotices => s.modify fun p => p.takeNotices.2
  | .advance moment span => s.advance store moment span

/-- Does one thing after the other. -/
def run (store : DocumentStore σ) (s : Session σ) (deeds : List Deed) : Session σ :=
  deeds.foldl (perform store) s

@[simp] lemma run_nil (store : DocumentStore σ) (s : Session σ) : s.run store [] = s := rfl

@[simp] lemma run_cons (store : DocumentStore σ) (s : Session σ) (deed : Deed)
    (deeds : List Deed) : s.run store (deed :: deeds) = (s.perform store deed).run store deeds :=
  rfl

@[simp] lemma run_append (store : DocumentStore σ) (s : Session σ) (deeds more : List Deed) :
    s.run store (deeds ++ more) = (s.run store deeds).run store more := List.foldl_append

/-! ### What it comes to -/

/-- The outcomes of saves, one after the other. -/
def outcomes (store : DocumentStore σ) (moment : Timestamp) (id : String) :
    List (Stage × String) → σ → List (Except StoreError Unit)
  | [], _ => []
  | (stage, text) :: saves, contents =>
    match store.saveField moment id stage text contents with
    | .ok () contents => .ok () :: outcomes store moment id saves contents
    | .error e contents => .error e :: outcomes store moment id saves contents

/-- What carrying out the started saves comes to. -/
def carrySteps (store : DocumentStore σ) (moment : Timestamp) (s : Session σ) : List Step :=
  .handOver :: (outcomes store moment s.preview.id s.preview.started s.contents).map .saved

/-- Time moves on to a later point, and what has been started is carried out
before. -/
def reach (store : DocumentStore σ) (moment : Timestamp) (time : Nat) (s : Session σ) :
    Session σ :=
  if s.now < time then { s.carryOut store moment with now := time } else s

/-- What moving on comes to. -/
def reachSteps (store : DocumentStore σ) (moment : Timestamp) (time : Nat) (s : Session σ) :
    List Step :=
  if s.now < time then s.carrySteps store moment else []

/-- What the ends of windows come to. -/
def untilSteps (store : DocumentStore σ) (moment : Timestamp) (time : Nat) :
    Nat → Session σ → List Step
  | 0, _ => []
  | ends + 1, s =>
    match s.preview.next? with
    | some (due, alarm) =>
      if due ≤ time then
        s.reachSteps store moment due ++ .expire alarm due
          :: untilSteps store moment time ends
            ((s.reach store moment due).modify (Preview.expire alarm due))
      else []
    | none => []

/-- What a deed comes to. -/
def steps (store : DocumentStore σ) (s : Session σ) : Deed → List Step
  | .load name sources => [.load name sources]
  | .openDocument =>
    match store.get s.preview.id s.contents with
    | .ok document _ => [.load document.name document.sources]
    | .error .. => []
  | .edit stage text => [.edit s.now stage text]
  | .compileNow stage => [.compileNow stage]
  | .refreshSample => [.refreshSample]
  | .setAutoReload stage enabled => [.setAutoReload stage enabled]
  | .attach consumer => [.attach consumer]
  | .rename moment name =>
    match store.rename moment s.preview.id name s.contents with
    | .ok .. => [.rename name]
    | .error .. => []
  | .save _ => []
  | .flush moment => .flush :: (s.modify Preview.flush).carrySteps store moment
  | .takeNotices => [.takeNotices]
  | .advance moment span =>
    untilSteps store moment (s.now + span) s.preview.weight s
      ++ (runUntil store moment (s.now + span) s.preview.weight s).carrySteps store moment

/-- What a run comes to. -/
def runSteps (store : DocumentStore σ) : Session σ → List Deed → List Step
  | _, [] => []
  | s, deed :: deeds => s.steps store deed ++ runSteps store (s.perform store deed) deeds

section Traces

variable {store : DocumentStore σ} {moment : Timestamp}

lemma preview_foldl_carryOutOne (saves : List (Stage × String)) (s : Session σ) :
    (saves.foldl (carryOutOne store moment) s).preview
      = s.preview.steps ((outcomes store moment s.preview.id saves s.contents).map .saved) := by
  induction saves generalizing s with
  | nil => rfl
  | cons save saves ih =>
    rw [List.foldl_cons, ih, carryOutOne, outcomes]
    cases store.saveField moment s.preview.id save.1 save.2 s.contents <;> rfl

lemma preview_carryOut (s : Session σ) :
    (s.carryOut store moment).preview = s.preview.steps (s.carrySteps store moment) := by
  rw [carryOut, preview_foldl_carryOutOne]
  rfl

lemma preview_reach (time : Nat) (s : Session σ) :
    (s.reach store moment time).preview = s.preview.steps (s.reachSteps store moment time) := by
  rw [reach, reachSteps]
  split
  · exact preview_carryOut s
  · rfl

/-- The first window that ends, ends if it is due, and otherwise nothing
happens. -/
lemma runUntil_cases (store : DocumentStore σ) (moment : Timestamp) (time ends : Nat)
    (s : Session σ) :
    (∃ due alarm, s.preview.next? = some (due, alarm)
      ∧ runUntil store moment time (ends + 1) s = runUntil store moment time ends
        ((s.reach store moment due).modify (Preview.expire alarm due))
      ∧ untilSteps store moment time (ends + 1) s
        = s.reachSteps store moment due ++ .expire alarm due :: untilSteps store moment time ends
          ((s.reach store moment due).modify (Preview.expire alarm due)))
    ∨ ((∀ due alarm, s.preview.next? = some (due, alarm) → time < due)
      ∧ runUntil store moment time (ends + 1) s = s
      ∧ untilSteps store moment time (ends + 1) s = []) := by
  rw [runUntil, untilSteps]
  cases hnext : s.preview.next? with
  | none => exact .inr ⟨fun _ _ h => (by cases h), rfl, rfl⟩
  | some first =>
    obtain ⟨due, alarm⟩ := first
    by_cases hdue : due ≤ time
    · exact .inl ⟨due, alarm, rfl, if_pos hdue, if_pos hdue⟩
    · refine .inr ⟨fun d a h => ?_, if_neg hdue, if_neg hdue⟩
      cases h
      exact Nat.not_le.mp hdue

lemma preview_runUntil (time ends : Nat) (s : Session σ) :
    (runUntil store moment time ends s).preview
      = s.preview.steps (untilSteps store moment time ends s) := by
  induction ends generalizing s with
  | zero => rfl
  | succ ends ih =>
    rcases runUntil_cases store moment time ends s with
      ⟨due, alarm, -, hrun, hsteps⟩ | ⟨-, hrun, hsteps⟩
    · rw [hrun, hsteps, ih, Preview.steps_append, ← preview_reach]
      rfl
    · rw [hrun, hsteps]
      rfl

lemma preview_perform (s : Session σ) (deed : Deed) :
    (s.perform store deed).preview = s.preview.steps (s.steps store deed) := by
  cases deed with
  | openDocument =>
    simp only [perform, openDocument, onStore, steps]
    cases store.get s.preview.id s.contents <;> rfl
  | rename moment name =>
    simp only [perform, rename, onStore, steps]
    cases store.rename moment s.preview.id name s.contents <;> rfl
  | save moment =>
    simp only [perform, save, onStore, steps]
    cases store.save moment s.preview.id s.preview.name s.preview.sources s.contents <;> rfl
  | flush moment => exact preview_carryOut _
  | advance moment span =>
    simp only [perform, advance, steps, Preview.steps_append]
    rw [preview_carryOut, preview_runUntil]
  | _ => rfl

/-- The steps of a run determine the preview. -/
theorem preview_run (s : Session σ) (deeds : List Deed) :
    (s.run store deeds).preview = s.preview.steps (s.runSteps store deeds) := by
  induction deeds generalizing s with
  | nil => rfl
  | cons deed deeds ih =>
    rw [run_cons, ih, runSteps, Preview.steps_append, preview_perform]

end Traces

end Session

end MockupStudio
