import TapeAdmin.Cartridge.Record
import TapeAdmin.Host

/-!
# Reading and writing attributes

Attributes are read and written by commands to the drive, sixteen bytes each. The data travels
through a temporary file: a tool that passes the command on to the drive leaves the answer in the
file, or takes the data from it.
-/

namespace TapeAdmin

/-- Why a value cannot be written to an attribute. -/
inductive AttributeWriteFault where
  | notWritable (id : UInt16)
  | notPrintable (id : UInt16)
  | notHexadecimal (char : Char) (index : Nat)
  | tooLong (id : UInt16) (length : Nat) (limit : Nat)
  deriving DecidableEq, Repr

/-- The digits of a number in base sixteen, without superfluous zeros. -/
def hexText (number : Nat) : List Char :=
  Nat.toDigits 16 number

/-- A character of one byte that shows on paper: no control character, no-break space or soft
hyphen. -/
def isVisible (char : Char) : Bool :=
  let code := char.toNat
  (32 ≤ code && code < 127) || (161 ≤ code && code != 173)

/-- A character in single quotes, with an escape for what could not be read otherwise. -/
def quotedChar (char : Char) : String :=
  let shown :=
    if char = '\x00' then ['\\', '0']
    else if char = '\t' then ['\\', 't']
    else if char = '\n' then ['\\', 'n']
    else if char = '\r' then ['\\', 'r']
    else if char = '\'' then ['\\', '\'']
    else if char = '\\' then ['\\', '\\']
    else if isVisible char then [char]
    else ['\\', 'u', '\x7b'] ++ hexText char.toNat ++ ['\x7d']
  "'" ++ String.ofList shown ++ "'"

namespace AttributeWriteFault

/-- The wording of a fault. -/
def message : AttributeWriteFault → String
  | .notWritable id => "attribute " ++ Attribute.idText id ++ " is not host-writable"
  | .notPrintable id => "attribute " ++ Attribute.idText id ++ " only accepts printable ASCII"
  | .notHexadecimal char index =>
    "invalid hex value: Invalid character " ++ quotedChar char ++ " at position " ++ toString index
  | .tooLong id length limit =>
    "value for attribute " ++ Attribute.idText id ++ " is " ++ toString length ++
      " bytes, limit is " ++ toString limit

end AttributeWriteFault

/-- A value to be written to an attribute: text, or hexadecimal digits for binary data. -/
structure AttributeWrite where
  id : UInt16
  value : String
  partition : UInt8 := 0
  deriving Repr

namespace AttributeWrite

/-- A text without every `0x` at its start. -/
def withoutMarks : List Char → List Char
  | '0' :: 'x' :: rest => withoutMarks rest
  | chars => chars

/-- The bytes that pairs of hexadecimal digits denote, the first of them at a position. -/
def hexPairs (position : Nat) : List UInt8 → Except AttributeWriteFault (List UInt8)
  | high :: low :: rest =>
    match Text.digitValue? 16 (Char.ofNat high.toNat),
        Text.digitValue? 16 (Char.ofNat low.toNat) with
    | some highValue, some lowValue => do
      let bytes ← hexPairs (position + 2) rest
      pure (UInt8.ofNat (highValue * 16 + lowValue) :: bytes)
    | none, _ => .error (.notHexadecimal (Char.ofNat high.toNat) position)
    | _, none => .error (.notHexadecimal (Char.ofNat low.toNat) (position + 1))
  | _ => .ok []

/-- The bytes that hexadecimal digits denote; a missing digit at the start is a zero. -/
def hexData (value : String) : Except AttributeWriteFault (List UInt8) :=
  let digits := Text.utf8 (String.ofList (withoutMarks value.toList))
  hexPairs 0 (if digits.length % 2 = 1 then 48 :: digits else digits)

/-- A character that can be printed in ASCII. -/
def isPrintable (char : Char) : Bool :=
  ' ' ≤ char && char ≤ '~'

/-- The bytes of a value, before they are filled up. -/
def rawData (write : AttributeWrite) : AttributeFormat → Except AttributeWriteFault (List UInt8)
  | .ascii =>
    if write.value.toList.all isPrintable then .ok (Text.utf8 write.value)
    else .error (.notPrintable write.id)
  | .text => .ok (Text.utf8 write.value)
  | .binary => hexData write.value

/-- Fills data up to a length: text with spaces or zeros at its end, binary data with zeros in
front. -/
def fill (length : Nat) (data : List UInt8) : AttributeFormat → List UInt8
  | .ascii => data ++ List.replicate (length - data.length) 32
  | .text => data ++ List.replicate (length - data.length) 0
  | .binary => List.replicate (length - data.length) 0 ++ data

/-- The record that a value is written as. -/
def record (write : AttributeWrite) : Except AttributeWriteFault AttributeRecord :=
  match Attribute.writable? write.id with
  | none => .error (.notWritable write.id)
  | some (format, length) => do
    let data ← write.rawData format
    if length < data.length then .error (.tooLong write.id data.length length)
    else pure { id := write.id, flags := format.code, data := fill length data format }

/-- The attribute data that a value is written as. -/
def encode (write : AttributeWrite) : Except AttributeWriteFault (List UInt8) :=
  write.record.map fun record => AttributeRecord.encode [record]

end AttributeWrite

/-- The sixteen bytes of a command to the drive. -/
abbrev DriveCommand := List UInt8

namespace DriveCommand

/-- The command that reads the attributes of a partition, from the first identifier on. -/
def readAttributes (first : UInt16) (partition : UInt8) (allocation : Nat) : DriveCommand :=
  [0x8C, 0, 0, 0, 0, 0, 0, partition] ++ Text.toBigEndian 2 first.toNat ++
    Text.toBigEndian 4 allocation ++ [0, 0]

/-- The command that writes attributes to a partition. -/
def writeAttributes (partition : UInt8) (length : Nat) : DriveCommand :=
  [0x8D, 0, 0, 0, 0, 0, 0, partition, 0, 0] ++ Text.toBigEndian 4 length ++ [0, 0]

/-- The bytes of a command as the arguments of a tool. -/
def tokens (command : DriveCommand) : List String :=
  command.map fun byte => String.ofList (Text.hexByte byte)

end DriveCommand

namespace Host

variable {σ : Type}

/-- How many bytes one attribute may take. -/
def singleAllocation : Nat := 1024

/-- How many bytes all attributes may take. -/
def fullAllocation : Nat := 65536

/-- The command for a summary of the cartridge. -/
def summaryCommand (device : FilePath) : CommandLine where
  program := "tapeinfo"
  arguments := ["-f", device.text]

/-- A summary of the cartridge. -/
def cartridgeSummary (host : Host σ) (device : FilePath) : Attempt σ String := do
  let output ← host.run (summaryCommand device)
  let output ← output.orFailure (summaryCommand device)
  pure output.stdout

/-- The tool command that reads attributes into a file. -/
def readCommand (file device : FilePath) (id : Option UInt16) (partition : UInt8) :
    CommandLine :=
  let allocation := if id.isSome then singleAllocation else fullAllocation
  { program := "sg_raw"
    arguments := ["-r", toString allocation, "-o", file.text, device.text] ++
      (DriveCommand.readAttributes (id.getD 0) partition allocation).tokens }

/-- The tool command that writes the attribute data in a file. -/
def writeCommand (file device : FilePath) (partition : UInt8) (length : Nat) : CommandLine where
  program := "sg_raw"
  arguments := ["-s", toString length, "-i", file.text, device.text] ++
    (DriveCommand.writeAttributes partition length).tokens

/-- Reads one attribute, or all attributes of a partition. -/
def readAttributes (host : Host σ) (device : FilePath) (id : Option UInt16)
    (partition : UInt8) : Attempt σ (List Attribute) := do
  let command := readCommand host.temporary device id partition
  let reply ← host.execute { command := command }
  discard (reply.output.orFailure command)
  match Attribute.decode reply.response with
  | .error fault => throw (.malformedData fault.message)
  | .ok attributes =>
    pure (match id with
      | some id => attributes.filter fun item => item.id == id
      | none => attributes)

/-- Writes a value to an attribute. -/
def writeAttribute (host : Host σ) (device : FilePath) (write : AttributeWrite) :
    Attempt σ Unit := do
  match write.encode with
  | .error fault => throw (.invalidParameter fault.message)
  | .ok data =>
    let command := writeCommand host.temporary device write.partition data.length
    let reply ← host.execute { command := command, payload := some data }
    discard (reply.output.orFailure command)

end Host

end TapeAdmin
