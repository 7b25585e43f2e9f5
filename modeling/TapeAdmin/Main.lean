import TapeAdmin.Command.Process
import TapeAdmin.Console.Help
import TapeAdmin.Console.Program
import TapeAdmin.Text.Calendar

/-!
# The executable

The program on a real host. The files that a run may need are read before it, the run itself is a
function, and what it printed and changed is carried out after it. The executable starts no
processes: a tool that is called for counts as not installed.
-/

namespace TapeAdmin.Executable

/-- The runner of a host without tools. -/
def withoutTools : Runner Unit where
  answer state execution := ({ output := execution.command.outcome (.error .notFound) }, state)

/-- The text of an absolute path to a place. -/
def placeText (place : List String) : String :=
  "/" ++ String.intercalate "/" place

/-- What is at a place of the real file system. -/
def entryAt (place : List String) : IO (Option FileEntry) := do
  let root ← IO.currentDir
  try
    let data ← (root / placeText place).metadata
    match data.type with
    | .dir => pure (some .directory)
    | .file => pure (some (.file (← IO.FS.readBinFile (placeText place)).toList))
    | _ => pure (some .device)
  catch _ => pure none

/-- Adds a place of the real file system. -/
def addPlace (files : FileSystem) (place : List String) : IO FileSystem := do
  if place.isEmpty || (files.entry? place).isSome then pure files
  else
    match ← entryAt place with
    | some entry => pure (files.put place entry)
    | none => pure files

/-- The places on the way along segments. -/
def placesAlong (here : List String) : List String → List (List String)
  | [] => [here]
  | segment :: segments =>
    let next :=
      if segment == "." then here
      else if segment == ".." then here.dropLast
      else here ++ [segment]
    here :: placesAlong next segments

/-- Adds the places on the way along a path. -/
def addPath (files : FileSystem) (path : FilePath) : IO FileSystem :=
  (placesAlong (files.start path) path.segments).foldlM addPlace files

/-- Adds a directory and what is in it. -/
def addDirectory (files : FileSystem) (path : FilePath) : IO FileSystem := do
  let files ← addPath files path
  let place := (placesAlong (files.start path) path.segments).getLastD []
  let root ← IO.currentDir
  try
    let entries ← (root / placeText place).readDir
    entries.toList.foldlM (fun files entry => addPlace files (place ++ [entry.fileName])) files
  catch _ => pure files

/-- The user's own configuration file. -/
def ownConfiguration : IO FilePath := do
  let directory ←
    match ← IO.getEnv "XDG_CONFIG_HOME" with
    | some directory => pure directory
    | none => pure ((← IO.getEnv "HOME").getD "/" ++ "/.config")
  pure ⟨directory ++ "/ltfsadm/config.toml"⟩

/-- The part of the real file system that a command line is about. -/
def snapshot (own : FilePath) (commandLine : List String) : IO FileSystem := do
  let here ← IO.currentDir
  let empty : FileSystem := {
    places := []
    workingDirectory := FilePath.segments ⟨here.toString⟩ }
  let files ← (own :: commandLine.map FilePath.mk).foldlM addPath empty
  match Invocation.read commandLine with
  | .error _ => pure files
  | .ok invocation =>
    match Configuration.load files invocation.configuration own with
    | .error _ => pure files
    | .ok configuration =>
      let files ← addPath files configuration.mount.defaultMountPoint
      addDirectory files configuration.deviceDirectory

/-- Carries out the changes to the file system. -/
def applyChanges (before after : FileSystem) : IO Unit :=
  after.places.forM fun (place, entry) =>
    if before.entry? place == some entry then pure ()
    else
      match entry with
      | .directory => IO.FS.createDirAll (placeText place)
      | .file content => IO.FS.writeBinFile (placeText place) ⟨content.toArray⟩
      | _ => pure ()

/-- The current time in seconds. -/
def currentSeconds : IO Nat := do
  let root ← IO.currentDir
  try
    let data ← (root / "/proc/self").metadata
    pure data.modified.sec.toNat
  catch _ => pure 0

/-- Reports how a run ended. -/
def report (ending : RunEnd) : IO Unit :=
  match ending with
  | .done => pure ()
  | .failed false failure => IO.eprintln (RunEnd.logMessage failure)
  | .failed true failure =>
    IO.eprintln ((Document.object [
      ("level", .text "ERROR"),
      ("message", .text (RunEnd.logMessage failure))]).render 0)
  | .refused .helpWanted => IO.println (String.intercalate "\n" Verb.program.help)
  | .refused .versionWanted => pure ()
  | .refused fault => do
    IO.eprintln ("error: " ++ fault.reason)
    IO.eprintln (String.intercalate "\n" Verb.program.help)

/-- Runs the program on a command line. A run that asks the operator is made twice: what it has
printed when it asks does not depend on the answer, and so can be shown before the answer is read.
-/
def run (commandLine : List String) : IO RunEnd := do
  let own ← ownConfiguration
  let files ← snapshot own commandLine
  let host : Host Unit := {
    runner := withoutTools
    devices := fun files => files.deviceDirectory ⟨"/dev"⟩
    temporary := ⟨"/tmp/ltfsadm"⟩
    now := Text.timeText (← currentSeconds) }
  let runWith (typed : List UInt8) : RunEnd × World Unit :=
    (host.runProgram own commandLine).run
      { tools := (), executed := [], files := files, printed := "", typed := typed }
  let question := (runWith []).2.readings.head?
  let shown := (question.map Reading.printed).getD ""
  IO.print shown
  (← IO.getStdout).flush
  let typed ← if question.isSome then (← IO.getStdin).getLine else pure ""
  let (ending, after) := runWith (Text.utf8 typed)
  IO.print (String.ofList (after.printed.toList.drop shown.length))
  applyChanges files after.files
  report ending
  pure ending

end TapeAdmin.Executable

/-- Runs the program and ends with its status. -/
def main (arguments : List String) : IO UInt32 := do
  let ending ← TapeAdmin.Executable.run ("ltfsadm" :: arguments)
  pure (UInt32.ofNat ending.exitStatus)
