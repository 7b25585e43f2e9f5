import Mathlib.Tactic.IntervalCases
import TapeAdmin.Proofs.Cartridge.RoundTrip

/-!
# Attribute data on its way to a drive

A value that is accepted for an attribute goes to the drive by one command. The length of the data
is told four times, in the arguments of the tool, in the bytes of the command, by the file, and in
the data itself, and it is the same each time. The bytes of the command are read back from the
arguments by a reader of their own, so that nothing depends on how they were written.
-/

namespace TapeAdmin

namespace Text

/-- The value of a hexadecimal digit that is no capital. -/
def lowerDigit? (char : Char) : Option Nat :=
  if char.isUpper then none else digitValue? 16 char

theorem lowerDigit?_hexDigit {value : Nat} (small : value < 16) :
    lowerDigit? (hexDigit value) = some value := by
  have table : ∀ value : Fin 16, lowerDigit? (hexDigit value) = some value.val := by decide
  exact table ⟨value, small⟩

end Text

namespace DriveCommand

/-- The byte that two hexadecimal digits denote, without capitals. -/
def ofToken? (token : String) : Option UInt8 :=
  match token.toList with
  | [high, low] => do
    pure (UInt8.ofNat ((← Text.lowerDigit? high) * 16 + (← Text.lowerDigit? low)))
  | _ => none

/-- The bytes of a command from the arguments of a tool. -/
def ofTokens? (tokens : List String) : Option DriveCommand :=
  tokens.mapM ofToken?

theorem ofToken?_hexByte (byte : UInt8) :
    ofToken? (String.ofList (Text.hexByte byte)) = some byte := by
  have byte_lt := byte.toNat_lt
  have high := Text.lowerDigit?_hexDigit (show byte.toNat / 16 < 16 by omega)
  have low := Text.lowerDigit?_hexDigit (show byte.toNat % 16 < 16 by omega)
  have whole : UInt8.ofNat (byte.toNat / 16 * 16 + byte.toNat % 16) = byte := by
    rw [Nat.div_add_mod']
    exact UInt8.ofNat_toNat
  simp only [ofToken?, Text.hexByte, String.toList_ofList, high, low, Option.pure_def,
    Option.bind_eq_bind, Option.bind_some, whole]

theorem ofTokens?_tokens (command : DriveCommand) : ofTokens? command.tokens = some command := by
  induction command with
  | nil => rfl
  | cons byte bytes ih =>
      have later : (tokens bytes).mapM ofToken? = some bytes := ih
      change ((String.ofList (Text.hexByte byte) :: tokens bytes).mapM ofToken?) = _
      rw [List.mapM_cons, ofToken?_hexByte, later]
      rfl

/-- The layout of a command that writes attributes to a partition, with the length of the data. -/
structure Writes (partition : UInt8) (length : Nat) (command : DriveCommand) : Prop where
  size : command.length = 16
  operation : command[0]? = some 0x8D
  partition : command[7]? = some partition
  announced : Text.ofBigEndian ((command.drop 10).take 4) = length
  unused : ∀ place < 16, place ≠ 0 → place ≠ 7 → place < 10 ∨ 14 ≤ place →
    command[place]? = some 0

theorem writes_writeAttributes (partition : UInt8) {length : Nat} (small : length < 256 ^ 4) :
    Writes partition length (writeAttributes partition length) := by
  have told := Text.ofBigEndian_toBigEndian small
  refine ⟨by simp [writeAttributes], rfl, rfl, told, ?_⟩
  intro place place_lt operation_place partition_place outside
  interval_cases place <;> first | contradiction | omega | rfl

end DriveCommand

namespace AttributeWrite

/-- The data for an accepted value tells its own length, which takes no more than four bytes. -/
theorem length_of_encode {write : AttributeWrite} {data : List UInt8}
    (accepted : write.encode = .ok data) :
    data.length < 256 ^ 4 ∧ Text.ofBigEndian (data.take 4) + 4 = data.length := by
  rcases encode_ok accepted with
    ⟨record, format, length, data, writable, _, filled, rfl, sized, rfl⟩
  have length_lt := (Attribute.length_of_writable? writable).1
  refine ⟨?_, (Attribute.decode_encode_one sized).2⟩
  simp only [AttributeRecord.encode, List.flatMap_cons, List.flatMap_nil, List.append_nil,
    List.length_append, Text.length_toBigEndian, AttributeRecord.length_bytes,
    AttributeRecord.headerLength, filled]
  omega

end AttributeWrite

/-- An execution that sends data to a drive for the attributes of a partition: the data is in the
file that the tool is told to read, and the arguments of the tool are the length of the data, the
file, the device, and the bytes of a command that announces the same length. -/
structure Execution.SendsData (file device : FilePath) (partition : UInt8) (data : List UInt8)
    (execution : Execution) : Prop where
  program : execution.command.program = "sg_raw"
  arguments : ∃ tokens command,
    execution.command.arguments =
      ["-s", toString data.length, "-i", file.text, device.text] ++ tokens ∧
    DriveCommand.ofTokens? tokens = some command ∧
    command.Writes partition data.length
  payload : execution.payload = some data
  header : Text.ofBigEndian (data.take 4) + 4 = data.length

namespace Host

variable {σ : Type} (host : Host σ)

theorem sendsData_writeCommand {write : AttributeWrite} {data : List UInt8}
    (accepted : write.encode = .ok data) (device : FilePath) :
    Execution.SendsData host.temporary device write.partition data
      ⟨writeCommand host.temporary device write.partition data.length, some data⟩ := by
  rcases AttributeWrite.length_of_encode accepted with ⟨small, header⟩
  refine ⟨rfl, ?_, rfl, header⟩
  exact ⟨_, _, rfl, DriveCommand.ofTokens?_tokens _, DriveCommand.writes_writeAttributes _ small⟩

theorem discard_orFailure_run (output : CommandOutput) (command : CommandLine)
    (world : World σ) :
    (discard (liftM (output.orFailure command)) : Attempt σ Unit).run.run world =
      (if output.succeeded then .ok () else .error (.commandFailed command.render output.stderr),
        world) := by
  rw [CommandOutput.orFailure]
  cases output.succeeded with
  | true => rfl
  | false => rfl

/-- A value that is not accepted is refused before anything is executed. An accepted one is sent to
the drive by one execution, and the outcome is that of the execution. -/
theorem writeAttribute_outcome (device : FilePath) (write : AttributeWrite) (world : World σ) :
    let ended := (host.writeAttribute device write).run.run world
    match write.encode with
    | .error fault => ended = (.error (.invalidParameter fault.message), world)
    | .ok data => ∃ execution,
        execution.SendsData host.temporary device write.partition data ∧
        let answered := host.runner.answer world.tools execution
        let output := answered.1.output
        ended.2 = { world with tools := answered.2, executed := world.executed ++ [execution] } ∧
        ended.1 =
          if output.succeeded then .ok ()
          else .error (.commandFailed execution.command.render output.stderr) := by
  dsimp only
  rw [writeAttribute]
  cases encoded : write.encode with
  | error fault => rfl
  | ok data =>
      let execution : Execution :=
        ⟨writeCommand host.temporary device write.partition data.length, some data⟩
      let answered := host.runner.answer world.tools execution
      have ended := discard_orFailure_run answered.1.output execution.command
        { world with tools := answered.2, executed := world.executed ++ [execution] }
      refine ⟨execution, sendsData_writeCommand host encoded device, ?_, ?_⟩
      · exact congrArg Prod.snd ended
      · exact congrArg Prod.fst ended

end Host

end TapeAdmin
