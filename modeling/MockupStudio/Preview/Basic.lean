/-
The state of a mockup in an editor.

* `Preview`: the slots of the three parts, the program that made the data,
  those who show it, and the timers of compiles and saves;
* `Preview.apply`: compiles parts, then tells the consumers once what to
  show, then hands them new data if there is some;
* `Preview.runStage`: one part. A run that fails changes nothing but the
  error and the status of its part; of a script compiling and sampling are
  one step.

Saves are put in the list `started`; whoever holds the store carries them
out.
-/
import MockupStudio.Preview.Consumer
import MockupStudio.Preview.Settings
import MockupStudio.Schedule.Agenda
import MockupStudio.Script.Sandbox
import MockupStudio.Store.Error

namespace MockupStudio

open Script

/-- Makes the artifact of a text, or says what is wrong with it. -/
abbrev Compiler := String → Except String String

/-- What can go wrong outside of the parts. -/
inductive PreviewError where
  /-- There is no clock for the timers to run on. -/
  | noClock
  | store (error : StoreError)
  | consumer (complaint : String)
  | stage (error : StageError)
  | noProgram
  deriving Repr, DecidableEq

namespace PreviewError

/-- The wording of an error. -/
def message? : PreviewError → Option String
  | noClock => some "pipeline requires a running tokio runtime"
  | store e => e.message?.map ("store error: " ++ ·)
  | consumer complaint => some ("render consumer failed: " ++ complaint)
  | stage e => some e.text
  | noProgram => some "no script has compiled yet"

/-- Whether there is no such document. -/
def isNotFound : PreviewError → Bool
  | store e => e.isNotFound
  | _ => false

end PreviewError

/-- A mockup in an editor. -/
structure Preview where
  /-- The document it belongs to. -/
  id : String
  name : String
  settings : Settings
  /-- How markup and style are compiled. -/
  markupCompiler : Compiler := .ok
  styleCompiler : Compiler := .ok
  slots : PerStage Slot
  /-- Where samples take their draws from. -/
  supply : Supply
  /-- The last script that compiled and gave a sample. -/
  program : Option Program := none
  /-- The last sample. -/
  data : Json := .null
  hasData : Bool := false
  consumers : List Consumer := []
  /-- What went wrong since the last time someone asked. -/
  notices : List PreviewError := []
  compiles : PerStage (Debounce Unit)
  saves : PerStage (Rebounce String)
  /-- Saves that have been started and not yet carried out. -/
  started : List (Stage × String) := []

namespace Preview

/-- A preview of a document, with nothing in it. -/
def create (id : String) (settings : Settings) (supply : Supply) : Preview where
  id := id
  name := id
  settings := settings
  slots := settings.autoReload.map fun autoReload => { autoReload }
  supply := supply
  compiles := PerStage.replicate { window := settings.compileDebounce }
  saves := PerStage.replicate { window := settings.saveRebounce }

/-- The slot of a part. -/
def slot (p : Preview) (stage : Stage) : Slot := p.slots.get stage

/-- Changes the slot of a part. -/
def modifySlot (stage : Stage) (f : Slot → Slot) (p : Preview) : Preview :=
  { p with slots := p.slots.modify stage f }

/-- The texts in the editor. -/
def sources (p : Preview) : Sources := p.slots.map Slot.text

/-- What is shown. -/
def renderState (p : Preview) : RenderState :=
  ⟨p.slots.markup.artifact, p.slots.style.artifact, p.data,
    p.slots.toList.filterMap Slot.error⟩

/-- Tells every consumer what to show. -/
def publish (p : Preview) : Preview :=
  { p with consumers := p.consumers.map (Consumer.publish p.renderState) }

/-- Hands the data to every consumer; failed setups become notices. -/
def deliver (p : Preview) : Preview :=
  let delivered := p.consumers.map (Consumer.deliver p.data)
  { p with
    consumers := delivered.map (·.2)
    notices := p.notices ++ delivered.filterMap fun d => d.1.map PreviewError.consumer }

/-- Compiles a part whose artifact depends on its text alone. -/
def runSource (stage : Stage) (compiler : Compiler) (p : Preview) : Preview :=
  match compiler (p.slot stage).text with
  | .ok artifact => p.modifySlot stage fun slot => slot.begun.applied artifact
  | .error message => p.modifySlot stage fun slot => slot.begun.failed ⟨stage, message, none⟩

/-- A program for a text, with its first sample. -/
def produce (limits : Limits) (text : String) : Sampling (Program × Json) := fun supply =>
  match Program.compile limits text with
  | .error e => .error e supply
  | .ok program =>
    match program.sample supply with
    | .ok data supply => .ok (program, data) supply
    | .error e supply => .error e supply

/-- What is wrong with the script. -/
def scriptError (e : ScriptError) : StageError := ⟨.script, e.message, e.line?⟩

/-- Compiles the script and takes a sample; says whether there is new data. -/
def runScript (p : Preview) : Bool × Preview :=
  let text := p.slots.script.text
  match produce p.settings.limits text p.supply with
  | .ok (program, data) supply =>
    (true, { p with program := some program, data, hasData := true, supply }
      |>.modifySlot .script fun slot => slot.begun.applied text)
  | .error e supply =>
    (false, { p with supply }
      |>.modifySlot .script fun slot => slot.begun.failed (scriptError e))

/-- Compiles a part; says whether there is new data. -/
def runStage (stage : Stage) (p : Preview) : Bool × Preview :=
  match stage with
  | .markup => (false, p.runSource .markup p.markupCompiler)
  | .style => (false, p.runSource .style p.styleCompiler)
  | .script => p.runScript

/-- Compiles parts one after the other; says whether there is new data. -/
def runStages : List Stage → Preview → Bool × Preview
  | [], p => (false, p)
  | stage :: stages, p =>
    let (new, p) := p.runStage stage
    let (more, p) := runStages stages p
    (new || more, p)

/-- Compiles parts and tells the consumers. -/
def apply (stages : List Stage) (p : Preview) : Preview :=
  let (new, p) := p.runStages stages
  if new then p.publish.deliver else p.publish

end Preview

end MockupStudio
