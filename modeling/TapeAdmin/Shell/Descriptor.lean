import TapeAdmin.Shell.Act

/-!
# Descriptors

Reading and writing through the descriptors of a process: files, which keep what is written, and
pipes, whose readers wait for their writers.
-/

namespace TapeAdmin.Shell

namespace Act

/-- The number of the open file that a descriptor stands for. -/
def openNumber? (descriptor : Nat) : Act (Option Nat) := do
  return (← shell).descriptors.lookup descriptor

/-- The open file that a descriptor stands for. -/
def openFile? (descriptor : Nat) : Act (Option (Nat × OpenFile)) := do
  let machine ← get
  return do
    let number ← machine.shell.descriptors.lookup descriptor
    let openFile ← machine.openFiles[number]?
    return (number, openFile)

/-- Lets a descriptor stand for an open file, or for nothing. -/
def assignDescriptor (descriptor : Nat) (number : Option Nat) : Act Unit :=
  changeShell fun shell =>
    let others := shell.descriptors.filter fun entry => entry.1 != descriptor
    { shell with
      descriptors :=
        match number with
        | some number => (descriptor, number) :: others
        | none => others }

/-- Adds an open file. -/
def addOpenFile (openFile : OpenFile) : Act Nat :=
  modifyGet fun machine =>
    (machine.openFiles.size, { machine with openFiles := machine.openFiles.push openFile })

/-- Adds a pipe, and returns its number and the ends for reading and for writing. -/
def addPipe : Act (Nat × Nat × Nat) := do
  let number := (← get).pipes.size
  modify fun machine => { machine with pipes := machine.pipes.push {} }
  let reading ← addOpenFile { target := .pipe number, reads := true }
  let writing ← addOpenFile { target := .pipe number, writes := true }
  return (number, reading, writing)

/-- The content of a file with bytes put at a position. -/
def spliced (content : List UInt8) (position : Nat) (bytes : List UInt8) : List UInt8 :=
  let before := content.take position
  before ++ List.replicate (position - before.length) 0 ++ bytes ++
    content.drop (position + bytes.length)

/-- The file system as it is seen from the directory of the shell. -/
def files : Act FileSystem := do
  let machine ← get
  return { machine.files with workingDirectory := machine.shell.directory }

/-- Writes into an open file. -/
def writeInto (number : Nat) (openFile : OpenFile) (text : Octets) :
    Act (Except SystemError Unit) := do
  if !openFile.writes then return .error (.refused 9)
  else if text.isEmpty then return .ok ()
  else
    match openFile.target with
    | .nothing | .zeros | .directory => return .ok ()
    | .full => return .error .noSpace
    | .pipe pipe =>
      let machine ← get
      let size := ((machine.pipes[pipe]?).map Pipe.size).getD 0 + text.length
      set { machine with
        pipes := machine.pipes.modify pipe fun pipe =>
          { pipe with
            written := ⟨machine.clock, machine.shell.process, text.toList⟩ :: pipe.written
            size } }
      if pipeLimit < size && 2 ≤ pipe then
        modify fun machine => { machine with
          pipes := machine.pipes.modify pipe fun pipe => { pipe with isEndless := true } }
        throw (.killed 13)
      else return .ok ()
    | .file place =>
      let machine ← get
      let content :=
        match machine.files.entry? place with
        | some (.file content) => content
        | _ => []
      let bytes := text.bytes
      let position := if openFile.appends then content.length else openFile.position
      set { machine with
        files := machine.files.put place (.file (spliced content position bytes))
        openFiles := machine.openFiles.modify number fun openFile =>
          { openFile with position := position + bytes.length } }
      return .ok ()

/-- Writes to a descriptor. -/
def write (descriptor : Nat) (text : Octets) : Act (Except SystemError Unit) := do
  match ← openFile? descriptor with
  | some (number, openFile) => writeInto number openFile text
  | none => return .error (.refused 9)

/-- How much is read at once. -/
inductive Portion where
  | all
  | line
  | bytes (count : Nat)
  deriving DecidableEq, Repr

/-- Takes a portion off the start of a text: what is taken, what is left, and whether nothing more
belongs to the portion. -/
def Portion.take {α : Type} [BEq α] (newline : α) : Portion → List α → List α × List α × Bool
  | .all, text => (text, [], false)
  | .line, text =>
    let front := text.takeWhile (· != newline)
    match text.drop front.length with
    | [] => (front, [], false)
    | mark :: rest => (front ++ [mark], rest, true)
  | .bytes count, text =>
    let front := text.take count
    (front, text.drop count, front.length == count)

/-- What is left of a portion after a part of it. -/
def Portion.after (portion : Portion) (length : Nat) : Portion :=
  match portion with
  | .bytes count => .bytes (count - length)
  | portion => portion

/-- Takes a portion out of chunks: what is taken, put behind `taken`, the last part first, then what
is left, the time at which the last part has come, and whether the portion is complete. -/
def takeChunks (portion : Portion) (taken : List (List Char)) (time : Nat) :
    List Chunk → List Char × List Chunk × Nat × Bool
  | [] => (taken.reverse.flatten, [], time, false)
  | chunk :: chunks =>
    let time := max time chunk.time
    let (front, rest, isComplete) := portion.take '\n' chunk.chars
    if isComplete then
      let left := if rest.isEmpty then chunks else { chunk with chars := rest } :: chunks
      ((front :: taken).reverse.flatten, left, time, true)
    else takeChunks (portion.after front.length) (front :: taken) time chunks

/-- Reads a portion from an open file. -/
def readFrom (number : Nat) (openFile : OpenFile) (portion : Portion) :
    Act (Except SystemError Octets) := do
  if !openFile.reads then return .error (.refused 9)
  else
    match openFile.target with
    | .nothing | .full => return .ok ""
    | .zeros =>
      match portion with
      | .bytes count => return .ok (String.ofList (List.replicate count '\x00'))
      | _ => throw .endless
    | .directory => return .error .isDirectory
    | .pipe pipe =>
      let machine ← get
      match machine.pipes[pipe]? with
      | none => return .ok ""
      | some found =>
        let (chars, rest, time, complete) := takeChunks portion [] 0 found.left
        set { machine with
          pipes := machine.pipes.modify pipe fun pipe => { pipe with unread := some rest } }
        waitUntil time
        if !complete then
          if found.isEndless then throw .endless
          waitUntil found.closes
        return .ok (String.ofList chars)
    | .file place =>
      let machine ← get
      let content :=
        match machine.files.entry? place with
        | some (.file content) => content
        | _ => []
      let (taken, _) := portion.take 10 (content.drop openFile.position)
      set { machine with
        openFiles := machine.openFiles.modify number fun openFile =>
          { openFile with position := openFile.position + taken.length } }
      return .ok (Octets.ofBytes taken)

/-- Reads from a descriptor. -/
def read (descriptor : Nat) (portion : Portion) : Act (Except SystemError Octets) := do
  match ← openFile? descriptor with
  | some (number, openFile) => readFrom number openFile portion
  | none => return .error (.refused 9)

end Act

end TapeAdmin.Shell
