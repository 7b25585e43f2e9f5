import TapeAdmin.Proofs.Text.Digits
import TapeAdmin.Proofs.Text.Trimming
import TapeAdmin.Proofs.Text.Utf8
import TapeAdmin.Shell.Launch

/-!
# Outcomes of processes

What the outcome of a command tells about its process. A command succeeds only if a process was
started for it that exited with zero before its time was up. A command that could not be started, or
was given up, has no exit code and has put out nothing, and it says why. A command that was given up
names its limit, and no two limits have the same name.
-/

namespace TapeAdmin

/-! ### The names of limits -/

theorem hexDigit_mod_ten_injective {first second : Nat}
    (same : Text.hexDigit (first % 10) = Text.hexDigit (second % 10)) :
    first % 10 = second % 10 := by
  have table : ∀ digit other : Fin 10,
      Text.hexDigit digit = Text.hexDigit other → digit = other := by
    decide
  have first_lt := Nat.mod_lt first (show 10 > 0 by decide)
  have second_lt := Nat.mod_lt second (show 10 > 0 by decide)
  exact congrArg Fin.val (table ⟨first % 10, first_lt⟩ ⟨second % 10, second_lt⟩ same)

theorem eq_of_threeDigits_eq {first second : Nat} (first_lt : first < 1000)
    (second_lt : second < 1000) (same : threeDigits first = threeDigits second) :
    first = second := by
  simp only [threeDigits, List.map_cons, List.map_nil, List.cons.injEq, and_true] at same
  rcases same with ⟨hundreds, tens, ones⟩
  have hundreds_eq := hexDigit_mod_ten_injective hundreds
  have tens_eq := hexDigit_mod_ten_injective tens
  have ones_eq := hexDigit_mod_ten_injective ones
  omega

/-- The zeros that are cut off are told by how many digits are left. -/
theorem threeDigits_eq (thousandths : Nat) :
    threeDigits thousandths = fractionDigits thousandths ++
      List.replicate (3 - (fractionDigits thousandths).length) '0' := by
  rcases Text.exists_dropEndWhile_append (· == '0') (threeDigits thousandths) with
    ⟨zeros, parts, all_zero⟩
  change threeDigits thousandths = fractionDigits thousandths ++ zeros at parts
  have length_eq := congrArg List.length parts
  have length_three : (threeDigits thousandths).length = 3 := rfl
  rw [List.length_append, length_three] at length_eq
  have zeros_eq : zeros = List.replicate zeros.length '0' :=
    List.eq_replicate_of_mem fun char char_mem => by simpa using all_zero char char_mem
  rw [length_eq, Nat.add_sub_cancel_left, ← zeros_eq]
  exact parts

theorem eq_of_fractionDigits_eq {first second : Nat} (first_lt : first < 1000)
    (second_lt : second < 1000) (same : fractionDigits first = fractionDigits second) :
    first = second := by
  apply eq_of_threeDigits_eq first_lt second_lt
  rw [threeDigits_eq, threeDigits_eq, same]

/-- What stands behind the number in the name of a limit. -/
inductive LimitUnit (milliseconds : Nat) : (number : Nat) → (unit : List Char) → Prop where
  | none (none : milliseconds = 0) : LimitUnit milliseconds 0 ['n', 's']
  | milliseconds : LimitUnit milliseconds milliseconds ['m', 's']
  | seconds {seconds : Nat} (whole : milliseconds = 1000 * seconds) :
      LimitUnit milliseconds seconds ['s']
  | fraction {seconds thousandths : Nat} (parts : milliseconds = 1000 * seconds + thousandths)
      (below : thousandths < 1000) :
      LimitUnit milliseconds seconds ('.' :: (fractionDigits thousandths ++ ['s']))

theorem exists_limitUnit (milliseconds : Nat) :
    ∃ number unit, LimitUnit milliseconds number unit ∧
      (limitText milliseconds).toList = Nat.toDigits 10 number ++ unit := by
  have below := Nat.mod_lt milliseconds (show 1000 > 0 by decide)
  have parts := (Nat.div_add_mod milliseconds 1000).symm
  rw [limitText]
  split
  · next nothing =>
      subst nothing
      exact ⟨0, _, .none rfl, rfl⟩
  · split
    · refine ⟨milliseconds, _, .milliseconds, ?_⟩
      rw [String.toList_append, Nat.toString_eq_ofList_toDigits, String.toList_ofList]
      rfl
    · dsimp only
      rw [String.toList_append, String.toList_append, Nat.toString_eq_ofList_toDigits,
        String.toList_ofList, List.append_assoc]
      split
      · next no_digit =>
          -- Only zero has no digit after the point.
          have no_rest : milliseconds % 1000 = 0 :=
            eq_of_fractionDigits_eq below (by decide) (List.isEmpty_iff.mp no_digit)
          rw [no_rest, Nat.add_zero] at parts
          exact ⟨milliseconds / 1000, _, .seconds parts, rfl⟩
      · refine ⟨milliseconds / 1000, _, .fraction parts below, ?_⟩
        simp

/-- A unit does not start with a digit, so that the number in front of it is told. -/
theorem LimitUnit.not_isDigit {milliseconds number : Nat} {unit : List Char}
    (spelled : LimitUnit milliseconds number unit) :
    ∀ char, unit.head? = some char → char.isDigit = false := by
  cases spelled <;> rintro _ ⟨⟩ <;> rfl

/-- A limit is told by the number and the unit. -/
theorem LimitUnit.unique {first second number : Nat} {unit others_unit : List Char}
    (spelled : LimitUnit first number unit) (other : LimitUnit second number others_unit)
    (same : unit = others_unit) : first = second := by
  cases spelled <;> cases other <;> simp at same
  case none.none first_eq second_eq => rw [first_eq, second_eq]
  case milliseconds.milliseconds => rfl
  case seconds.seconds first_eq second_eq => rw [first_eq, second_eq]
  case fraction.fraction first_below first_parts _ second_below second_parts =>
    rw [first_parts, second_parts, eq_of_fractionDigits_eq first_below second_below same]

/-- The text of a limit tells the limit. -/
theorem limitText_injective {first second : Nat} (same : limitText first = limitText second) :
    first = second := by
  rcases exists_limitUnit first with ⟨number, unit, spelled, text_eq⟩
  rcases exists_limitUnit second with ⟨others_number, others_unit, others_spelled, others_text_eq⟩
  have texts_eq :
      Nat.toDigits 10 number ++ unit = Nat.toDigits 10 others_number ++ others_unit := by
    rw [← text_eq, ← others_text_eq, same]
  have all_digits (number : Nat) : ∀ char ∈ Nat.toDigits 10 number, char.isDigit = true :=
    fun _ char_mem => Nat.isDigit_of_mem_toDigits (by decide) (by decide) char_mem
  have units_eq : unit = others_unit := by
    have behind := congrArg (List.dropWhile Char.isDigit) texts_eq
    rwa [List.dropWhile_append_of_pos (all_digits number),
      List.dropWhile_append_of_pos (all_digits others_number),
      Text.dropWhile_of_head? spelled.not_isDigit,
      Text.dropWhile_of_head? others_spelled.not_isDigit] at behind
  have numbers_eq : number = others_number := by
    rw [units_eq, List.append_cancel_right_eq] at texts_eq
    simpa using congrArg (fun digits => Nat.ofDigitChars 10 digits 0) texts_eq
  subst numbers_eq
  exact spelled.unique others_spelled units_eq

/-! ### What becomes of a command -/

theorem SystemError.message_ne_empty (error : SystemError) : error.message ≠ "" := by
  cases error <;> simp [message]

/-- Why a command is given up: it could not be started, or its process did not end in time. -/
inductive GivenUp (command : CommandLine) : Except SystemError ProcessRun → String → Prop where
  | not_started (error : SystemError) : GivenUp command (.error error) error.message
  | too_late {run : ProcessRun} {limit : Nat} (limited : command.timeout = some limit)
      (late : limit ≤ run.duration) :
      GivenUp command (.ok run) (command.program ++ " timed out after " ++ limitText limit)

/-- A process that was started for a command, and that ended before its time was up. -/
structure EndsInTime (command : CommandLine) (started : Except SystemError ProcessRun)
    (run : ProcessRun) : Prop where
  started : started = .ok run
  in_time : ∀ limit, command.timeout = some limit → run.duration < limit

theorem GivenUp.reason_ne_empty {command : CommandLine}
    {started : Except SystemError ProcessRun} {reason : String}
    (given_up : GivenUp command started reason) : reason ≠ "" := by
  cases given_up with
  | not_started error => exact error.message_ne_empty
  | too_late limited late => simp

theorem EndsInTime.not_givenUp {command : CommandLine} {started : Except SystemError ProcessRun}
    {run : ProcessRun} (ends : EndsInTime command started run) (reason : String) :
    ¬GivenUp command started reason := by
  rintro (error | ⟨limited, late⟩)
  · cases ends.started
  · cases ends.started
    exact Nat.not_lt.mpr late (ends.in_time _ limited)

theorem ProcessRun.isWithin_iff {run : ProcessRun} {timeout : Option Nat} :
    run.isWithin timeout = true ↔ ∀ limit, timeout = some limit → run.duration < limit := by
  cases timeout <;> simp [isWithin]

namespace CommandLine

variable {command : CommandLine} {started : Except SystemError ProcessRun} {run : ProcessRun}

theorem givenUp_or_endsInTime (command : CommandLine)
    (started : Except SystemError ProcessRun) :
    (∃ reason, GivenUp command started reason) ∨ ∃ run, EndsInTime command started run := by
  cases started with
  | error error => exact .inl ⟨_, .not_started error⟩
  | ok run =>
      by_cases in_time : ∀ limit, command.timeout = some limit → run.duration < limit
      · exact .inr ⟨run, rfl, in_time⟩
      · simp only [not_forall, Nat.not_lt] at in_time
        rcases in_time with ⟨limit, limited, late⟩
        exact .inl ⟨_, .too_late limited late⟩

/-- A command that is given up fails with the reason as its error text, and with nothing else. -/
theorem outcome_of_givenUp {reason : String} (given_up : GivenUp command started reason) :
    command.outcome started = .failure reason := by
  cases given_up with
  | not_started error => rfl
  | @too_late run limit limited late =>
      have not_within : ¬run.isWithin command.timeout = true := by
        simp [ProcessRun.isWithin, limited, late]
      rw [outcome, if_neg not_within, limited]
      rfl

theorem outcome_of_endsInTime (ends : EndsInTime command started run) :
    command.outcome started = run.output := by
  rcases ends with ⟨rfl, in_time⟩
  exact if_pos (ProcessRun.isWithin_iff.mpr in_time)

/-- A command succeeds exactly if its process ends in time and exits with zero. -/
theorem succeeded_outcome_iff :
    (command.outcome started).succeeded = true ↔
      ∃ run, EndsInTime command started run ∧ run.ending = .exited 0 := by
  rcases command.givenUp_or_endsInTime started with ⟨reason, given_up⟩ | ⟨run, ends⟩
  · rw [outcome_of_givenUp given_up]
    refine iff_of_false (by simp [CommandOutput.failure]) ?_
    rintro ⟨run, ends, _⟩
    exact ends.not_givenUp reason given_up
  · rw [outcome_of_endsInTime ends]
    constructor
    · intro succeeded
      exact ⟨run, ends, by simpa [ProcessRun.output] using succeeded⟩
    · rintro ⟨other, others_end, exited⟩
      cases ends.started.symm.trans others_end.started
      simp [ProcessRun.output, exited]

/-- The exit code is the status with which a process exits in time; there is none for a process that
is killed, and none for a command that is given up. -/
theorem exitCode_outcome_eq_some_iff {code : Int} :
    (command.outcome started).exitCode = some code ↔
      ∃ run status, EndsInTime command started run ∧ run.ending = .exited status ∧
        code = status := by
  rcases command.givenUp_or_endsInTime started with ⟨reason, given_up⟩ | ⟨run, ends⟩
  · rw [outcome_of_givenUp given_up]
    refine iff_of_false (by simp [CommandOutput.failure]) ?_
    rintro ⟨run, _, ends, _⟩
    exact ends.not_givenUp reason given_up
  · rw [outcome_of_endsInTime ends]
    constructor
    · intro has_code
      rcases Option.map_eq_some_iff.mp has_code with ⟨status, has_status, rfl⟩
      refine ⟨run, status, ends, ?_, rfl⟩
      cases ending : run.ending with
      | exited other =>
          rw [ending] at has_status
          cases has_status
          rfl
      | killed signal =>
          rw [ending] at has_status
          cases has_status
    · rintro ⟨other, status, others_end, exited, rfl⟩
      cases ends.started.symm.trans others_end.started
      simp [ProcessRun.output, exited, ProcessEnd.status?]

/-- The texts that a process puts out before its time is up are kept as they are. -/
theorem outcome_texts {output errors : String} (ends : EndsInTime command started run)
    (output_bytes : run.stdout = Text.utf8 output) (errors_bytes : run.stderr = Text.utf8 errors) :
    (command.outcome started).stdout = output ∧ (command.outcome started).stderr = errors := by
  rw [outcome_of_endsInTime ends, ProcessRun.output, output_bytes, errors_bytes]
  exact ⟨Text.ofUtf8Lossy_utf8 output, Text.ofUtf8Lossy_utf8 errors⟩

/-! ### A host with nothing but the common tools -/

/-- A command is started exactly if its program is a tool, and no NUL stands in the way. -/
theorem exists_launch_iff {files : FileSystem} :
    (∃ run, Shell.launch files command = .ok run) ↔
      command.holdsNul = false ∧
        Shell.Target.isTool (Shell.toolName (Shell.Octets.ofText command.program)) = true := by
  rw [Shell.launch]
  split
  · next nul => simp [nul]
  · next no_nul =>
      rw [Bool.not_eq_true] at no_nul
      dsimp only
      split
      · next is_tool => simp [no_nul, is_tool]
      · next no_tool =>
          -- Why there is no such program does not matter here.
          refine iff_of_false ?_ fun started => no_tool started.2
          rintro ⟨run, impossible⟩
          repeat' split at impossible
          all_goals cases impossible

/-- Only tools succeed. -/
theorem isTool_of_succeeded_runOn {files : FileSystem}
    (succeeded : (command.runOn files).succeeded = true) :
    Shell.Target.isTool (Shell.toolName (Shell.Octets.ofText command.program)) = true := by
  rcases succeeded_outcome_iff.mp succeeded with ⟨run, ends, _⟩
  exact (exists_launch_iff.mp ⟨run, ends.started⟩).2

/-- A command whose program cannot be started fails, and there is a text that says why. -/
theorem runOn_of_not_launched {files : FileSystem}
    (not_launched : ¬∃ run, Shell.launch files command = .ok run) :
    ∃ reason, reason ≠ "" ∧ command.runOn files = .failure reason := by
  rcases command.givenUp_or_endsInTime (Shell.launch files command) with
    ⟨reason, given_up⟩ | ⟨run, ends⟩
  · exact ⟨reason, given_up.reason_ne_empty, outcome_of_givenUp given_up⟩
  · exact absurd ⟨run, ends.started⟩ not_launched

example : ({ program := "mt", arguments := ["status"] } : CommandLine).runOn ⟨[], []⟩ =
    .failure "No such file or directory (os error 2)" := by
  decide +kernel

end CommandLine

end TapeAdmin
