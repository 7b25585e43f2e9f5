import TapeAdmin.Shell.Expansion

/-!
# Redirections

Opens files for the descriptors of a command, and gives the descriptors back afterwards.
-/

namespace TapeAdmin.Shell

/-- What a redirection asks for once its word has been replaced. -/
inductive Redirection where
  | file (descriptor : Nat) (kind : RedirectKind) (path : Octets)
  | copy (descriptor source : Nat)
  | close (descriptor : Nat)
  | text (descriptor : Nat) (text : Octets)
  deriving DecidableEq, Repr

/-- The descriptor that a redirection changes. -/
def Redirection.descriptor : Redirection → Nat
  | .file descriptor _ _ | .copy descriptor _ | .close descriptor | .text descriptor _ => descriptor

/-- The wording of an error number, with one of its own for a missing file. -/
def reasonText (missing : String) (error : SystemError) : String :=
  match error with
  | .refused number => if number = 2 || number = 20 then missing else errorNumberText number
  | other => other.message

namespace Redirect

open Act

/-- Replaces the word of a redirection. -/
def resolve (substitute : Substitute) : Redirect → Act Redirection
  | .mk descriptor kind word => do
    match kind with
    | .document number =>
      match (← shell).documents.lookup number with
      | some text => return .text descriptor (← Expansion.documentText substitute text)
      | none => return .text descriptor ""
    | .duplicate =>
      let text ← Expansion.text substitute word
      match text.toList with
      | ['-'] => return .close descriptor
      | [digit] =>
        match Text.digitValue? 10 digit with
        | some source => return .copy descriptor source
        | none => fail "Syntax error: Bad fd number"
      | _ => fail "Syntax error: Bad fd number"
    | _ => return .file descriptor kind (← Expansion.text substitute word)

end Redirect

namespace Redirection

open Act

/-- The descriptor that a path stands for. -/
def descriptorPath? (path : Octets) : Option Nat :=
  match path with
  | "/dev/stdin" => some 0
  | "/dev/stdout" => some 1
  | "/dev/stderr" => some 2
  | _ =>
    match Text.afterWord? "/dev/fd/".toList path.toList with
    | some digits => Text.ofDigits? 10 digits
    | none => none

/-- The place that a path leads to, and whether it has to be created there. -/
def find (files : FileSystem) (path : FilePath) :
    Except SystemError (List String × Option FileEntry) := do
  FileSystem.checkPath path
  let place ← files.follow (files.start path) (FileSystem.closedSegments path)
  return (place, files.entry? place)

/-- Opens what is at a place. -/
def openEntry (place : List String) (openFile : OpenFile) : Option FileEntry → OpenFile
  | some .device =>
    { openFile with target := if place == ["dev", "zero"] then .zeros else .nothing }
  | some .fullDevice => { openFile with target := .full }
  | some .directory => { openFile with target := .directory }
  | _ => { openFile with target := .file place }

/-- Opens a path for reading. -/
def openForReading (path : Octets) : Act (Except SystemError OpenFile) := do
  match find (← files) (Octets.path path) with
  | .error error => return .error error
  | .ok (place, entry) => return .ok (openEntry place { target := .nothing, reads := true } entry)

/-- Opens a path for writing; `cuts` forgets what the file holds, and `protects` refuses a file that
is there already. -/
def openForWriting (path : Octets) (cuts protects : Bool) (openFile : OpenFile) :
    Act (Except SystemError OpenFile) := do
  let files ← files
  match files.openPlace (Octets.path path) with
  | .error error => return .error error
  | .ok place =>
    match files.entry? place with
    | some (.file _) =>
      if protects then return .error .alreadyExists
      else
        if cuts then
          modify fun machine => { machine with files := machine.files.put place (.file []) }
        return .ok { openFile with target := .file place }
    | none =>
      modify fun machine => { machine with files := machine.files.put place (.file []) }
      return .ok { openFile with target := .file place }
    | entry => return .ok (openEntry place openFile entry)

/-- Opens the file of a redirection. -/
def openPath (kind : RedirectKind) (path : Octets) : Act (Except SystemError OpenFile) := do
  let writing : OpenFile := { target := .nothing, writes := true }
  match descriptorPath? path with
  | some descriptor =>
    match ← openFile? descriptor with
    | some (_, openFile) => return .ok openFile
    | none => return .error .notFound
  | none =>
    match kind with
    | .input => openForReading path
    | .append => openForWriting path false false { writing with appends := true }
    | .both => openForWriting path false false { writing with reads := true }
    | .output force => openForWriting path true (!force && (← isOn "noclobber")) writing
    | _ => return .error .notFound

/-- Carries out a redirection, and says why it fails if it does. What the descriptor stands for is
put aside before it becomes a copy, so that it is closed if there is nothing to copy; only a process
of its own (`isLasting`) puts nothing aside. -/
def apply (isLasting : Bool) (redirection : Redirection) : Act (Except Octets Unit) := do
  match redirection with
  | .file descriptor kind path =>
    match ← openPath kind path with
    | .ok openFile =>
      assignDescriptor descriptor (some (← addOpenFile openFile))
      return .ok ()
    | .error error =>
      let isInput := kind == .input
      let action := if isInput then "cannot open " else "cannot create "
      let missing := if isInput then "No such file" else "Directory nonexistent"
      return .error (action ++ path ++ ": " ++ reasonText missing error)
  | .copy descriptor source =>
    match ← openNumber? source with
    | some number =>
      assignDescriptor descriptor (some number)
      return .ok ()
    | none =>
      if !isLasting then assignDescriptor descriptor none
      return .error (toString source ++ ": Bad file descriptor")
  | .close descriptor =>
    assignDescriptor descriptor none
    return .ok ()
  | .text descriptor content =>
    let (number, reading, writing) ← addPipe
    match (← get).openFiles[writing]? with
    | some openFile => discard (writeInto writing openFile content)
    | none => pure ()
    modify fun machine => { machine with
      pipes := machine.pipes.modify number fun pipe => { pipe with isEndless := false } }
    assignDescriptor descriptor (some reading)
    return .ok ()

/-- Carries out redirections up to the first one that fails. -/
def applyAll (isLasting : Bool) : List Redirection → Act (Except Octets Unit)
  | [] => return .ok ()
  | redirection :: redirections => do
    match ← redirection.apply isLasting with
    | .ok () => applyAll isLasting redirections
    | .error message => return .error message

/-- Gives descriptors back what they stood for in another shell. -/
def undo (before : ShellState) (redirections : List Redirection) (shell : ShellState) :
    ShellState :=
  { shell with
    descriptors := redirections.foldl (fun descriptors redirection =>
      let descriptor := redirection.descriptor
      let others := descriptors.filter fun entry => entry.1 != descriptor
      match before.descriptors.lookup descriptor with
      | some number => (descriptor, number) :: others
      | none => others) shell.descriptors }

end Redirection

end TapeAdmin.Shell
