import TapeAdmin.Shell.Tool.Words

/-!
# Tools about files

The tools that list, create and remove what is in the file system.
-/

namespace TapeAdmin.Shell

namespace Tool

open Act

/-- Changes the files of the machine, and says why that fails if it does. -/
def changeFiles (change : FileSystem → Except SystemError FileSystem) :
    Act (Except SystemError Unit) := do
  let machine ← get
  match change (← files) with
  | .ok files =>
    set { machine with files := { files with workingDirectory := machine.files.workingDirectory } }
    return .ok ()
  | .error error => return .error error

/-- Does something for each operand, and returns the status. -/
def forOperands (name : Octets) (arguments : Arguments)
    (act : Octets → Act (Except Octets Unit)) : Act Nat := do
  let mut status := 0
  for word in arguments.operands do
    match ← act word with
    | .ok () => pure ()
    | .error message =>
      complain name message
      status := 1
  return status

/-- The place of what a path names, without following a link at its end. -/
def placeOf (files : FileSystem) (path : Octets) : Except SystemError (List String) := do
  let path := Octets.path path
  FileSystem.checkPath path
  let (parent, last) ← files.parentPlace (files.start path) path.segments
  if (files.entry? (parent ++ [last])).isSome then .ok (parent ++ [last]) else .error .notFound

/-- The files without what is at a place and below it. -/
def without (place : List String) (files : FileSystem) : FileSystem :=
  { files with places := files.places.filter fun entry => !place.isPrefixOf entry.1 }

/-- The tool `mkdir`. -/
def mkdir (name : Octets) (arguments : Arguments) : Act Nat := do
  if arguments.operands.isEmpty then refuse name "missing operand"
  else
    forOperands name arguments fun word => do
      let path := Octets.path word
      let create (files : FileSystem) : Except SystemError FileSystem :=
        if arguments.has 'p' then
          match files.ensureDirectory path with
          | (files, .ok ()) => .ok files
          | (_, .error error) => .error error
        else do
          FileSystem.checkPath path
          files.createOne (files.start path) path.segments
      return (← changeFiles create).mapError fun error =>
        "cannot create directory " ++ Quoting.inMessage word ++ ": " ++ reason error

/-- The tool `rmdir`. -/
def rmdir (name : Octets) (arguments : Arguments) : Act Nat := do
  if arguments.operands.isEmpty then refuse name "missing operand"
  else
    forOperands name arguments fun word => do
      let remove (files : FileSystem) : Except SystemError FileSystem := do
        let place ← placeOf files word
        if files.entry? place != some .directory then .error .notDirectory
        else if files.places.any fun entry => entry.1 != place && place.isPrefixOf entry.1 then
          .error (.refused 39)
        else .ok (without place files)
      return (← changeFiles remove).mapError fun error =>
        "failed to remove " ++ quotedName word ++ ": " ++ reason error

/-- The tool `rm`. -/
def rm (name : Octets) (arguments : Arguments) : Act Nat := do
  let isForced := arguments.has 'f'
  let isDeep := arguments.has 'r' || arguments.has 'R'
  if arguments.operands.isEmpty && !isForced then refuse name "missing operand"
  else
    forOperands name arguments fun word => do
      let remove (files : FileSystem) : Except SystemError FileSystem := do
        let place ← placeOf files word
        if files.entry? place == some .directory && !isDeep then .error .isDirectory
        else .ok (without place files)
      match ← changeFiles remove with
      | .ok () => return .ok ()
      | .error error =>
        if isForced && error == .notFound then return .ok ()
        else return .error ("cannot remove " ++ quotedName word ++ ": " ++ reason error)

/-- The tool `touch`. -/
def touch (name : Octets) (arguments : Arguments) : Act Nat := do
  if arguments.operands.isEmpty then refuse name "missing file operand"
  else
    forOperands name arguments fun word => do
      match (← files).find (Octets.path word) with
      | .ok _ => return .ok ()
      | .error _ =>
        if arguments.has 'c' then return .ok ()
        else
          return (← Redirection.openPath .append word).map (fun _ => ()) |>.mapError fun error =>
            "cannot touch " ++ quotedName word ++ ": " ++ reason error

/-- Where a file goes that is copied or moved to a target. -/
def destination (files : FileSystem) (source target : Octets) : Octets :=
  if files.isDirectory (Octets.path target) then
    target ++ "/" ++ String.ofList (lastName source)
  else target

/-- Copies or moves files; `isMove` removes each of them afterwards. -/
def transfer (isMove : Bool) (name : Octets) (arguments : Arguments) : Act Nat := do
  match arguments.operands.reverse with
  | [] => refuse name "missing file operand"
  | [word] => refuse name ("missing destination file operand after " ++ quotedName word)
  | target :: sources =>
    if 2 ≤ sources.length && !(← files).isDirectory (Octets.path target) then
      complain name ("target " ++ quotedName target ++ ": No such file or directory")
      return 1
    else
      forOperands name { operands := sources.reverse } fun word => do
        let files ← files
        match files.find (Octets.path word), placeOf files word with
        | .ok (.file content), .ok place =>
          let goal := destination files word target
          let move (files : FileSystem) : Except SystemError FileSystem := do
            let goalPlace ← files.openPlace (Octets.path goal)
            let files ← files.store goalPlace content
            return if isMove && goalPlace != place then without place files else files
          return (← changeFiles move).mapError fun error =>
            "cannot create regular file " ++ quotedName goal ++ ": " ++ reason error
        | .ok .directory, _ =>
          return .error ("-r not specified; omitting directory " ++ quotedName word)
        | .ok _, _ => return .ok ()
        | .error error, _ =>
          return .error ("cannot stat " ++ quotedName word ++ ": " ++ reason error)

/-- The names in a directory that `ls` shows, one on each line. -/
def listing (files : FileSystem) (arguments : Arguments) (path : Octets) : Octets :=
  let names : List Octets :=
    match files.list (Octets.path path) with
    | .ok entries => entries.map fun entry => Octets.ofText entry.1
    | .error _ => []
  let dots := if arguments.has 'a' then [".", ".."] else []
  let shown := names.filter fun name =>
    arguments.has 'a' || arguments.has 'A' || name.toList.head? != some '.'
  let sorted := (dots ++ shown).mergeSort fun first second => first ≤ second
  String.join (sorted.map fun name => name ++ "\n")

/-- The tool `ls`. -/
def ls (name : Octets) (arguments : Arguments) : Act Nat := do
  let files ← files
  let words := if arguments.operands.isEmpty then ["."] else arguments.operands
  let sorted := words.mergeSort fun first second => first ≤ second
  let mut status := 0
  for word in sorted do
    match files.find (Octets.path word) with
    | .ok _ => pure ()
    | .error error =>
      complain name ("cannot access " ++ quotedName word ++ ": " ++ reason error)
      status := 2
  let isFile (word : Octets) : Bool :=
    match files.find (Octets.path word) with
    | .ok .directory => arguments.has 'd'
    | .ok _ => true
    | .error _ => false
  let isDirectory (word : Octets) : Bool :=
    !arguments.has 'd' && files.isDirectory (Octets.path word)
  let plain := sorted.filter isFile
  let directories := sorted.filter isDirectory
  let blocks := directories.map fun word =>
    (if words.length = 1 then "" else word ++ ":\n") ++ listing files arguments word
  let lines := String.join (plain.map fun word => word ++ "\n")
  let all := if plain.isEmpty then blocks else lines :: blocks
  output name (String.intercalate "\n" all) status

end Tool

end TapeAdmin.Shell
