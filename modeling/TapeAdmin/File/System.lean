import TapeAdmin.File.Path
import TapeAdmin.SystemError
import TapeAdmin.Text.Utf8

/-!
# The file system

A file system as a list of places, each named by the way that leads to it from the root directory.
The operations are those that the program needs: reading and replacing a file, listing a directory,
creating a directory with its parents, and checking for read permission. They fail with the error
number that the kernel would give. Permissions themselves are not part of it: every place can be
read. Symbolic links are followed, up to a limit.
-/

namespace TapeAdmin

/-- What is found at a place. -/
inductive FileEntry where
  | directory
  | file (content : List UInt8)
  /-- A character device that reads as empty and forgets what is written to it. -/
  | device
  /-- A character device on which nothing can be written for want of space. -/
  | fullDevice
  /-- A symbolic link to a path, which starts where the link is if it is relative. -/
  | link (target : FilePath)
  deriving DecidableEq, Repr

/-- A file system with the directory in which relative paths start. -/
structure FileSystem where
  places : List (List String × FileEntry)
  workingDirectory : List String
  deriving Repr

namespace FileSystem

/-- What is at a place, without following a link. The root directory always exists. -/
def entry? (system : FileSystem) : List String → Option FileEntry
  | [] => some .directory
  | place => system.places.lookup place

/-- Puts an entry at a place, replacing what is there. -/
def put (system : FileSystem) (place : List String) (entry : FileEntry) : FileSystem :=
  if (system.places.lookup place).isSome then
    { system with places := system.places.map fun (other, found) =>
        if other = place then (other, entry) else (other, found) }
  else { system with places := system.places ++ [(place, entry)] }

/-- The longest name of a place, in bytes. -/
def nameLimit : Nat := 255

/-- The longest text of a path, in bytes. -/
def pathLimit : Nat := 4095

/-- Refuses the paths that are unfit whatever is in the file system. -/
def checkPath (path : FilePath) : Except SystemError Unit :=
  if path.text.toList.contains '\x00' then .error .nulInFileName
  else if path.text.isEmpty then .error .notFound
  else if pathLimit < path.text.utf8ByteSize then .error .nameTooLong
  else .ok ()

/-- The directory from which the segments of a path are followed. -/
def start (system : FileSystem) (path : FilePath) : List String :=
  if path.isAbsolute then [] else system.workingDirectory

/-- How many symbolic links are followed on the way along a path. -/
def linkLimit : Nat := 40

/--
Follows segments from a place that must be a directory as long as there are any, and returns the
place they lead to. At most `links` symbolic links are followed.
-/
def followUpTo (system : FileSystem) (links : Nat) (here : List String) :
    List String → Except SystemError (List String)
  | [] => .ok here
  | segment :: segments =>
    match system.entry? here with
    | some .directory =>
      if segment = "." then followUpTo system links here segments
      else if segment = ".." then followUpTo system links here.dropLast segments
      else if nameLimit < segment.utf8ByteSize then .error .nameTooLong
      else
        match system.entry? (here ++ [segment]) with
        | none => .error .notFound
        | some (.link target) =>
          match links with
          | 0 => .error .tooManyLinks
          | left + 1 =>
            followUpTo system left (if target.isAbsolute then [] else here)
              (target.segments ++ segments)
        | some _ => followUpTo system links (here ++ [segment]) segments
    | _ => .error .notDirectory
termination_by segments => (links, segments.length)

/-- Follows segments from a place, and returns the place they lead to. -/
def follow (system : FileSystem) (here segments : List String) : Except SystemError (List String) :=
  system.followUpTo linkLimit here segments

/-- A separator at the end asks for a directory, like a `.` after it. -/
def closedSegments (path : FilePath) : List String :=
  if path.text.toList.getLast? = some '/' then path.segments ++ ["."] else path.segments

/-- What a path leads to. -/
def find (system : FileSystem) (path : FilePath) : Except SystemError FileEntry := do
  checkPath path
  let place ← follow system (system.start path) (closedSegments path)
  match system.entry? place with
  | some entry => .ok entry
  | none => .error .notFound

/-- Whether a path leads to a directory. -/
def isDirectory (system : FileSystem) (path : FilePath) : Bool :=
  match system.find path with
  | .ok .directory => true
  | _ => false

/-- Whether a path leads to a regular file. -/
def isFile (system : FileSystem) (path : FilePath) : Bool :=
  match system.find path with
  | .ok (.file _) => true
  | _ => false

/-- The bytes of the file at a path. -/
def read (system : FileSystem) (path : FilePath) : Except SystemError (List UInt8) := do
  match ← system.find path with
  | .file content => .ok content
  | .directory => .error .isDirectory
  | .device | .fullDevice | .link _ => .ok []

/-- The text of the file at a path, which must be UTF-8. -/
def readText (system : FileSystem) (path : FilePath) : Except SystemError String := do
  match Text.ofUtf8? (← system.read path) with
  | some text => .ok text
  | none => .error .invalidUtf8

/-- The place that the segments name: an existing directory, and a name in it. -/
def parentPlace (system : FileSystem) (here : List String) (segments : List String) :
    Except SystemError (List String × String) :=
  match segments.getLast? with
  | none => .error .isDirectory
  | some name => do
    let parent ← follow system here segments.dropLast
    match system.entry? parent with
    | some .directory =>
      if nameLimit < name.utf8ByteSize then .error .nameTooLong else .ok (parent, name)
    | _ => .error .notDirectory

/-- The place at which a file is opened for writing, or created: a link at the end of the segments
is followed, also to a place where nothing is yet. At most `links` of them are followed. -/
def writePlace (system : FileSystem) (here segments : List String) :
    (links : Nat) → Except SystemError (List String)
  | 0 => .error .tooManyLinks
  | links + 1 => do
    let (parent, name) ← system.parentPlace here segments
    if name = "." || name = ".." then .error .isDirectory
    else
      match system.entry? (parent ++ [name]) with
      | some (.link target) =>
        writePlace system (if target.isAbsolute then [] else parent) target.segments links
      | _ => .ok (parent ++ [name])

/-- The place at which the file of a path is opened for writing, or created. A path that asks for a
directory, by its last segment or by a separator at its end, is refused. -/
def openPlace (system : FileSystem) (path : FilePath) : Except SystemError (List String) := do
  checkPath path
  if path.text.toList.getLast? = some '/' then
    discard (system.parentPlace (system.start path) path.segments)
    .error .isDirectory
  else
    let place ← system.writePlace (system.start path) path.segments (linkLimit + 1)
    if system.entry? place = some .directory then .error .isDirectory else .ok place

/-- Puts content into the file at a place; a device keeps nothing. -/
def store (system : FileSystem) (place : List String) (content : List UInt8) :
    Except SystemError FileSystem :=
  match system.entry? place with
  | some .device => .ok system
  | some .fullDevice => if content.isEmpty then .ok system else .error .noSpace
  | _ => .ok (system.put place (.file content))

/-- Replaces the content of the file at a path, or creates it in an existing directory. -/
def write (system : FileSystem) (path : FilePath) (content : List UInt8) :
    Except SystemError FileSystem := do
  system.store (← system.openPlace path) content

/-- Creates one directory, at the end of the segments. -/
def createOne (system : FileSystem) (here : List String) (segments : List String) :
    Except SystemError FileSystem :=
  if segments.isEmpty then .error .alreadyExists
  else do
    let (parent, name) ← system.parentPlace here segments
    if name = "." || name = ".." then .error .alreadyExists
    else
      match system.entry? (parent ++ [name]) with
      | some _ => .error .alreadyExists
      | none => .ok (system.put (parent ++ [name]) .directory)

/-- Whether segments lead to a directory. -/
def leadsToDirectory (system : FileSystem) (here : List String) (segments : List String) : Bool :=
  match follow system here segments with
  | .ok place => system.entry? place == some .directory
  | .error _ => false

/-- Creates one directory, or accepts that it is there already. -/
def ensureOne (system : FileSystem) (here : List String) (segments : List String) :
    FileSystem × Except SystemError Unit :=
  match system.createOne here segments with
  | .ok grown => (grown, .ok ())
  | .error error =>
    if system.leadsToDirectory here segments then (system, .ok ()) else (system, .error error)

/--
Creates the directory at the head of a list with the parents it lacks, which follow it in the list,
the nearest first. The parents are looked at only if something is missing on the way to the
directory. The file system beside an error holds the parents created before it.
-/
def ensureChain (system : FileSystem) (here : List String) :
    List (List String) → FileSystem × Except SystemError Unit
  | [] => (system, .ok ())
  | segments :: parents =>
    match system.createOne here segments with
    | .ok grown => (grown, .ok ())
    | .error error =>
      if error = .notFound then
        match ensureChain system here parents with
        | (grown, .ok ()) => grown.ensureOne here segments
        | (grown, .error fault) => (grown, .error fault)
      else system.ensureOne here segments

/-- The segment by which a component is followed. -/
def segmentOf? : PathComponent → Option String
  | .root => none
  | .current => some "."
  | .parent => some ".."
  | .name text => some text

/-- The parents of a path, as segments, the nearest first. -/
def parents (path : FilePath) : List (List String) :=
  let components := path.components
  (List.range components.length).reverse.filterMap fun count =>
    if count = 0 then none else some ((components.take count).filterMap segmentOf?)

/-- Creates the directory at a path with the parents it lacks; the empty path needs nothing. -/
def ensureDirectory (system : FileSystem) (path : FilePath) :
    FileSystem × Except SystemError Unit :=
  if path.text.isEmpty then (system, .ok ())
  else
    match checkPath path with
    | .error error => (system, .error error)
    | .ok () => system.ensureChain (system.start path) (path.segments :: parents path)

/-- Whether a segment leads from a directory to a character device. -/
def leadsToDevice (system : FileSystem) (here : List String) (segment : String) : Bool :=
  match system.follow here [segment] with
  | .ok place => [some FileEntry.device, some .fullDevice].contains (system.entry? place)
  | .error _ => false

/-- The names in a directory, each with whether it leads to a character device. -/
def list (system : FileSystem) (path : FilePath) :
    Except SystemError (List (String × Bool)) := do
  checkPath path
  let place ← follow system (system.start path) (closedSegments path)
  match system.entry? place with
  | some .directory =>
    .ok (system.places.filterMap fun (other, _) =>
      match other.getLast? with
      | some name =>
        if other.dropLast = place then some (name, system.leadsToDevice place name) else none
      | none => none)
  | some _ => .error .notDirectory
  | none => .error .notFound

end FileSystem

end TapeAdmin
