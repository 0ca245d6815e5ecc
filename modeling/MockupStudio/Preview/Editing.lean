/-
What can be done with a mockup in an editor.

* `load`, `edit`, `compileNow`, `refreshSample`, `setAutoReload`, `attach`,
  `flush`, `takeNotices`, `close`: the operations; those that start a window
  are given the time;
* `Alarm`: a window that can end; `Preview.next?` gives the first one to do
  so and `Preview.expire` its end.
-/
import MockupStudio.Preview.Basic

namespace MockupStudio

open Script

/-- How a consumer that joins gets its data. -/
inductive Delivery where
  /-- It was given the data there is and is not notified. -/
  | alreadyKnown
  /-- There is none yet; it will be notified of the first. -/
  | pending
  deriving Repr, DecidableEq

/-- A window of a preview. -/
inductive Alarm where
  | compile (stage : Stage)
  | save (stage : Stage)
  deriving Repr, DecidableEq

namespace Preview

/-- Forgets every compile and save that is waiting, and ends all windows. -/
def cancelTimers (p : Preview) : Preview :=
  { p with compiles := p.compiles.map Debounce.cancel, saves := p.saves.map Rebounce.cancel }

/-- Puts other texts in place of all that was there, compiles them and tells
the consumers once. -/
def load (name : String) (sources : Sources) (p : Preview) : Preview :=
  let slots : PerStage Slot :=
    ⟨p.slots.markup.loaded sources.markup, p.slots.style.loaded sources.style,
      p.slots.script.loaded sources.script⟩
  { p.cancelTimers with name, slots, program := none, data := .null, hasData := false }
    |>.apply Stage.all

/-- Starts a save if there is something to save. -/
def start (stage : Stage) (text : Option String) (p : Preview) : Preview :=
  { p with started := p.started ++ text.toList.map fun text => (stage, text) }

/-- Hands a text to the saves of a part. -/
def save (now : Nat) (stage : Stage) (text : String) (p : Preview) : Preview :=
  let (fired, wrapper) := (p.saves.get stage).call now text
  { p with saves := p.saves.set stage wrapper }.start stage fired

/-- Lets a compile of a part wait for a pause. -/
def scheduleCompile (now : Nat) (stage : Stage) (p : Preview) : Preview :=
  { p with compiles := p.compiles.modify stage (Debounce.call now ()) }

/-- Forgets a compile of a part that is waiting. -/
def cancelCompile (stage : Stage) (p : Preview) : Preview :=
  { p with compiles := p.compiles.modify stage Debounce.cancel }

/-- An edit: it is saved, and compiled after a pause if the switch is on. -/
def edit (now : Nat) (stage : Stage) (text : String) (p : Preview) : Preview :=
  let p := (p.modifySlot stage (Slot.edited text)).save now stage text
  if (p.slot stage).autoReload then p.scheduleCompile now stage else p

/-- An edit unless the text is already there; says whether it was one. -/
def editTo (now : Nat) (stage : Stage) (text : String) (p : Preview) : Bool × Preview :=
  if text = (p.slot stage).text then (false, p) else (true, p.edit now stage text)

/-- Compiles a part without waiting. -/
def compileNow (stage : Stage) (p : Preview) : Except StageError Unit × Preview :=
  let p := (p.cancelCompile stage).apply [stage]
  match (p.slot stage).error with
  | some e => (.error e, p)
  | none => (.ok (), p)

/-- The flags of the script after a sample of the program in use: an error of
a newer text stays. -/
def refreshed (slot : Slot) : Slot :=
  if slot.text = slot.artifact then slot.applied slot.artifact else slot

/-- Takes another sample of the program in use. -/
def refreshSample (p : Preview) : Except PreviewError Json × Preview :=
  match p.program with
  | none => (.error .noProgram, p)
  | some program =>
    match program.sample p.supply with
    | .ok data supply =>
      (.ok data,
        ({ p with data, hasData := true, supply }.modifySlot .script refreshed).publish.deliver)
    | .error e supply =>
      let e := scriptError e
      (.error (.stage e), ({ p with supply }.modifySlot .script (Slot.failed e)).publish)

/-- Says whether edits of a part are compiled without being asked for; an
edit made while they were not is compiled when they are again. -/
def setAutoReload (stage : Stage) (enabled : Bool) (p : Preview) : Preview :=
  let dirty := (p.slot stage).dirty
  let p := (p.modifySlot stage fun slot => { slot with autoReload := enabled }).cancelCompile stage
  if enabled && dirty then p.apply [stage] else p

/-- A consumer joins: it is told what to show and given the data there is. -/
def attach (consumer : Consumer) (p : Preview) : Delivery × Preview :=
  let consumer := consumer.publish p.renderState
  if p.hasData then
    (.alreadyKnown, { p with consumers := p.consumers ++ [consumer.merge p.data] })
  else (.pending, { p with consumers := p.consumers ++ [consumer] })

/-- What fires of the compiles of a part. -/
def compileFired (stage : Stage) (fired : Option Unit × Debounce Unit) (p : Preview) :
    Preview :=
  let p := { p with compiles := p.compiles.set stage fired.2 }
  if fired.1.isSome then p.apply [stage] else p

/-- What fires of the saves of a part. -/
def saveFired (stage : Stage) (fired : Option String × Rebounce String) (p : Preview) :
    Preview :=
  { p with saves := p.saves.set stage fired.2 }.start stage fired.1

/-- Compiles a part whose compile is waiting. -/
def flushCompile (p : Preview) (stage : Stage) : Preview :=
  p.compileFired stage (p.compiles.get stage).flush

/-- Saves a part whose save is waiting. -/
def flushSave (p : Preview) (stage : Stage) : Preview :=
  p.saveFired stage (p.saves.get stage).flush

/-- Compiles and saves everything that is waiting. -/
def flush (p : Preview) : Preview :=
  Stage.all.foldl flushSave (Stage.all.foldl flushCompile p)

/-- What went wrong since the last time. -/
def takeNotices (p : Preview) : List PreviewError × Preview :=
  (p.notices, { p with notices := [] })

/-- Notes how a save went. -/
def saved (outcome : Except StoreError Unit) (p : Preview) : Preview :=
  match outcome with
  | .ok () => p
  | .error e => { p with notices := p.notices ++ [.store e] }

/-- Closes the preview: nothing that is waiting will happen. -/
def close (p : Preview) : Preview := p.cancelTimers

/-! ### The passing of time -/

/-- When windows end: compiles before saves. -/
def dues (p : Preview) : List (Nat × Alarm) :=
  (Stage.all.filterMap fun stage => (p.compiles.get stage).due?.map fun t => (t, .compile stage))
    ++ Stage.all.filterMap fun stage => (p.saves.get stage).due?.map fun t => (t, .save stage)

/-- The window that ends first. -/
def next? (p : Preview) : Option (Nat × Alarm) := earliest? p.dues

/-- The end of a window. -/
def expire (alarm : Alarm) (time : Nat) (p : Preview) : Preview :=
  match alarm with
  | .compile stage => p.compileFired stage (p.compiles.get stage).expire
  | .save stage => p.saveFired stage ((p.saves.get stage).expire time)

/-- How many windows can still end without further edits. -/
def weight (p : Preview) : Nat :=
  p.compiles.toList.foldr (fun timer total => timer.weight + total) 0
    + p.saves.toList.foldr (fun timer total => timer.weight + total) 0

end Preview

end MockupStudio
