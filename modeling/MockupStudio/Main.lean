/-
The program.

It takes up what a run needs of the real directories and files, lets the run
take place on that, and carries out what has changed. While a directory is
watched this is done again and again.
-/
import MockupStudio.Command.Run
import Std.Time.DateTime.Timestamp

namespace MockupStudio.Program

/-- The real path of a location. -/
def pathOf (location : Location) : String := "/" ++ "/".intercalate location

/-- What there really is at a location. -/
def entryAt? (location : Location) : IO (Option Entry) := do
  let path := (← IO.currentDir) / pathOf location
  if ← path.isDir then return some .directory
  else if ← path.pathExists then
    let bytes ← IO.FS.readBinFile path
    match String.fromUTF8? bytes with
    | some text => return some (.file text)
    | none => return some (.binary bytes.toList)
  else return none

/-- Takes up what there is at a location. -/
def observeAt (location : Location) (disk : Disk) : IO Disk := do
  match ← entryAt? location with
  | some entry => return if location.isEmpty then disk else disk.put location entry
  | none => return disk.drop location

/-- Takes up what names lead through. -/
def observeAlong : Location → List String → Disk → IO Disk
  | _, [], disk => return disk
  | location, name :: names, disk => do
    let location := if name = ".." then location.dropLast else location ++ [name]
    observeAlong location names (← observeAt location disk)

/-- Takes up what a path leads through. -/
def observe (path : String) (disk : Disk) : IO Disk :=
  observeAlong (disk.start path) (Path.names path) disk

/-- Takes up the entries of a directory. -/
def observeEntries (path : String) (disk : Disk) : IO Disk := do
  let disk ← observe path disk
  match disk.walk (disk.start path) (Path.names path) with
  | .error _ => return disk
  | .ok location =>
    let directory := (← IO.currentDir) / pathOf location
    if ← directory.isDir then
      (← directory.readDir).foldlM (fun disk entry => observeAt (location ++ [entry.fileName]) disk)
        disk
    else return disk

/-- Takes up the files of a document. -/
def observeSources (directory : String) (disk : Disk) : IO Disk :=
  Stage.all.foldlM (fun disk stage => observe (Path.join directory stage.fileName) disk) disk

/-- The working directory, with what leads to it. -/
def workingDisk : IO Disk := do
  let here := Path.names (← IO.currentDir).toString
  let disk ← observeAlong [] here {}
  return { disk with here }

/-- Carries out one change; a file is prepared aside and then takes its
place. -/
def carryOut : Location × Option Entry → IO Unit
  | (location, none) => IO.FS.removeFile (pathOf location)
  | (location, some .directory) => IO.FS.createDirAll (pathOf location)
  | (location, some (.file text)) => do
    IO.FS.writeFile (pathOf location ++ ".part") text
    IO.FS.rename (pathOf location ++ ".part") (pathOf location)
  | (location, some (.binary bytes)) => do
    IO.FS.writeBinFile (pathOf location ++ ".part") (ByteArray.mk bytes.toArray)
    IO.FS.rename (pathOf location ++ ".part") (pathOf location)

/-- Carries out what has changed. -/
def carryOutAll (before after : Disk) : IO Unit := (before.changesSince after).forM carryOut

/-- The reading of the clock. -/
def moment : IO Timestamp := do
  let nanos := (← Std.Time.Timestamp.now).toNanosecondsSinceUnixEpoch.val
  return ⟨nanos.fdiv 1000000000, (nanos.fmod 1000000000).toNat⟩

/-- A seed for a run for which none is given. -/
def chance : IO Nat := do
  return (← IO.getRandomBytes 8).toList.foldl (fun n byte => 256 * n + byte.toNat) 0

/-- The variables the program knows. -/
def environment : IO (Bindings String) :=
  ["LIVEMOCK_STORE", "LIVEMOCK_REMOTE", "LIVEMOCK_DEBOUNCE_MS", "LIVEMOCK_REBOUNCE_MS",
      Usage.seedVariable].foldlM
    (fun known key => return match ← IO.getEnv key with
      | some value => Bindings.insert key value known
      | none => known) []

/-- Services cannot be reached from here. -/
def send (_ : Request) : StateM Disk Reply := return .unreachable

/-- Tells why a command failed. -/
def complain (e : CommandError) : IO UInt32 := do
  IO.eprintln (e.message?.getD "the command failed")
  return UInt32.ofNat e.exitCode

/-- Follows the changes in a directory until the input ends. -/
partial def follow (around : Surroundings Disk) (store : DocumentStore Disk) (begun : Nat)
    (input : Task (Except IO.Error String)) (w : Watch Disk) : IO (Watch Disk) := do
  IO.sleep 50
  let before := w.session.contents
  let seen ← observeSources w.directory before
  let changed := (before.changesSince seen).map fun (location, _) => pathOf location
  let w := { w with session := { w.session with contents := seen } }
  let now ← moment
  let span := (← IO.monoMsNow) - begun - w.session.now
  let w := (changed.foldl (fun w path => w.notice path) (w.wait store now span)).wait store now 0
  carryOutAll seen w.session.contents
  if ← IO.hasFinished input then return w else follow around store begun input w

/-- Watches a directory. -/
def watch (around : Surroundings Disk) (options : Options) (store : DocumentStore Disk)
    (id directory : String) (disk : Disk) : IO UInt32 := do
  match Watch.begin store options around.moment id directory disk with
  | .error e after =>
    carryOutAll disk after
    complain e
  | .ok w after =>
    carryOutAll disk after
    let input ← IO.asTask do return ← (← IO.getStdin).getLine
    let w ← follow around store (← IO.monoMsNow) input w
    let done := w.finish store (← moment)
    carryOutAll w.session.contents done.session.contents
    IO.print done.report
    return 0

/-- The disk as far as an invocation looks at it. -/
def observeFor (i : Invocation) (disk : Disk) : IO Disk := do
  let disk ← observe (i.file.getD Options.defaultFile) disk
  match i.action with
  | .importFrom _ directory _ => observeSources directory disk
  | .watch _ directory => observeSources directory disk
  | .exportTo _ path => observe path disk
  | _ => return disk

/-- Does what an invocation asks for. -/
def perform (around : Surroundings Disk) (i : Invocation) : IO UInt32 := do
  let disk ← observeFor i (← workingDisk)
  match Options.load disk i.file around.environment i.overrides with
  | .error e => complain e
  | .ok options =>
    let disk ← if options.remote.isNone then observeEntries options.storeDirectory disk
      else pure disk
    match i.prepare around disk with
    | .error e _ => complain e
    | .ok (options, store) prepared =>
      carryOutAll disk prepared
      match i.action with
      | .watch id directory => watch around options store id directory prepared
      | action =>
        match action.perform around store options prepared with
        | .error e after =>
          carryOutAll prepared after
          complain e
        | .ok text after =>
          carryOutAll prepared after
          IO.print text
          return 0

end MockupStudio.Program

open MockupStudio

/-- Reads the command line and does what it asks for. -/
def main (words : List String) : IO UInt32 := do
  let environment ← Program.environment
  match Invocation.read environment words with
  | .error e =>
    let outcome := Outcome.ofInterruption e
    IO.print outcome.output
    return UInt32.ofNat outcome.code
  | .ok i =>
    let around : Surroundings Disk :=
      { environment, moment := ← Program.moment, chance := ← Program.chance, send := Program.send }
    Program.perform around i
