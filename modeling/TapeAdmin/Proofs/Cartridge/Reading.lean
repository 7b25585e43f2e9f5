import TapeAdmin.Proofs.Cartridge.Exactness
import TapeAdmin.Proofs.Cartridge.Sending
import TapeAdmin.Proofs.Host.Relation

/-!
# Attribute data on its way from a drive

Attributes are asked for by one command, whether one of them is wanted or all. How long the answer
may be is told twice, in the arguments of the tool and in the bytes of the command, and it is the
same length. What becomes of the request depends on the command first and on the answer afterwards:
the answer to a command that failed is not looked at.
-/

namespace TapeAdmin

namespace DriveCommand

/-- The layout of a command that reads the attributes of a partition, with the first identifier and
the length that the answer may have. -/
structure Reads (partition : UInt8) (first : UInt16) (allocation : Nat) (command : DriveCommand) :
    Prop where
  size : command.length = 16
  operation : command[0]? = some 0x8C
  partition : command[7]? = some partition
  first : Text.ofBigEndian ((command.drop 8).take 2) = first.toNat
  announced : Text.ofBigEndian ((command.drop 10).take 4) = allocation
  unused : ∀ place < 16, place ≠ 0 → place ≠ 7 → place < 8 ∨ 14 ≤ place →
    command[place]? = some 0

theorem reads_readAttributes (partition : UInt8) (first : UInt16) {allocation : Nat}
    (small : allocation < 256 ^ 4) :
    Reads partition first allocation (readAttributes first partition allocation) := by
  have first_told : Text.ofBigEndian (Text.toBigEndian 2 first.toNat) = first.toNat :=
    Text.ofBigEndian_toBigEndian (by simpa using first.toNat_lt)
  have told := Text.ofBigEndian_toBigEndian small
  refine ⟨by simp [readAttributes], rfl, rfl, first_told, told, ?_⟩
  intro place place_lt operation_place partition_place outside
  interval_cases place <;> first | contradiction | omega | rfl

end DriveCommand

namespace Attribute

theorem decode_of_short {bytes : List UInt8} (short : bytes.length < 4) :
    decode bytes = .error ⟨bytes.length⟩ := by
  rw [decode, AttributeRecord.decode_of_short short]
  rfl

theorem exists_decode_of_long {bytes : List UInt8} (long : 4 ≤ bytes.length) :
    ∃ items, decode bytes = .ok items := by
  rw [decode, AttributeRecord.decode_of_long long]
  exact ⟨_, rfl⟩

end Attribute

/-- An execution that asks a drive for the attributes of a partition: the arguments of the tool are
the length that the answer may have, the file for the answer, the device, and the bytes of a command
that announces the same length. -/
structure Execution.AsksFor (file device : FilePath) (partition : UInt8) (first : UInt16)
    (execution : Execution) : Prop where
  program : execution.command.program = "sg_raw"
  arguments : ∃ allocation tokens command,
    execution.command.arguments =
      ["-r", toString allocation, "-o", file.text, device.text] ++ tokens ∧
    DriveCommand.ofTokens? tokens = some command ∧
    command.Reads partition first allocation
  payload : execution.payload = none

/-- What a request for attributes ends with, after the reply to its execution. -/
inductive Execution.Yields (execution : Execution) (id : Option UInt16) (reply : Reply) :
    Except Failure (List Attribute) → Prop
  | failed (failed : reply.output.succeeded = false) :
      Yields execution id reply
        (.error (.commandFailed execution.command.render reply.output.stderr))
  | tooShort (succeeded : reply.output.succeeded = true) (short : reply.response.length < 4) :
      Yields execution id reply
        (.error (.malformedData (AttributeDataFault.message ⟨reply.response.length⟩)))
  | attributes {items : List Attribute} (succeeded : reply.output.succeeded = true)
      (long : 4 ≤ reply.response.length) (decoded : Attribute.decode reply.response = .ok items) :
      Yields execution id reply (.ok (items.filter fun item => id = none ∨ id = some item.id))

namespace Host

variable {σ : Type} (host : Host σ)

theorem asksFor_readCommand (device : FilePath) (id : Option UInt16) (partition : UInt8) :
    Execution.AsksFor host.temporary device partition (id.getD 0)
      ⟨readCommand host.temporary device id partition, none⟩ := by
  have small : (if id.isSome then singleAllocation else fullAllocation) < 256 ^ 4 := by
    split <;> decide
  refine ⟨rfl, ?_, rfl⟩
  exact ⟨_, _, _, rfl, DriveCommand.ofTokens?_tokens _, DriveCommand.reads_readAttributes _ _ small⟩

/-- The attributes that were asked for, by one identifier or by none. -/
theorem wanted_eq_filter (id : Option UInt16) (items : List Attribute) :
    (match id with
      | some id => items.filter fun item => item.id == id
      | none => items) =
      items.filter fun item => id = none ∨ id = some item.id := by
  cases id with
  | none => simp
  | some id =>
      apply List.filter_congr
      intro item _
      simp [Bool.beq_eq_decide_eq, eq_comm]

/-- Attributes are asked for by one execution, and what comes of it follows from the reply. -/
theorem readAttributes_outcome (device : FilePath) (id : Option UInt16) (partition : UInt8)
    (world : World σ) :
    let ended := (host.readAttributes device id partition).run.run world
    ∃ execution : Execution,
      execution.AsksFor host.temporary device partition (id.getD 0) ∧
      let answered := host.runner.answer world.tools execution
      ended.2 = { world with tools := answered.2, executed := world.executed ++ [execution] } ∧
      execution.Yields id answered.1 ended.1 := by
  dsimp only
  let command := readCommand host.temporary device id partition
  let answered := host.runner.answer world.tools { command := command }
  let asked : World σ :=
    { world with tools := answered.2, executed := world.executed ++ [{ command := command }] }
  have executed : (host.execute { command := command }).run world = (answered.1, asked) := rfl
  have looked := discard_orFailure_run answered.1.output command asked
  refine ⟨⟨command, none⟩, asksFor_readCommand host device id partition, ?_⟩
  rw [readAttributes, Attempt.run_bind_lift, executed]
  cases succeeded : answered.1.output.succeeded with
  | false =>
      rw [succeeded] at looked
      rw [Attempt.run_bind_of_error looked]
      exact ⟨rfl, .failed succeeded⟩
  | true =>
      rw [succeeded] at looked
      rw [Attempt.run_bind_of_ok looked]
      rcases Nat.lt_or_ge answered.1.response.length 4 with short | long
      · have decoded := Attribute.decode_of_short short
        rw [decoded]
        exact ⟨rfl, .tooShort succeeded short⟩
      · rcases Attribute.exists_decode_of_long long with ⟨items, decoded⟩
        rw [decoded]
        refine ⟨rfl, ?_⟩
        have wanted : Execution.Yields ⟨command, none⟩ id answered.1
            (.ok (items.filter fun item => id = none ∨ id = some item.id)) :=
          .attributes succeeded long decoded
        rw [← wanted_eq_filter] at wanted
        exact wanted

end Host

end TapeAdmin
