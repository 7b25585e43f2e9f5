import TapeAdmin.Configuration.Reading
import TapeAdmin.Proofs.Command.Options
import TapeAdmin.Proofs.Host.Relation
import TapeAdmin.Proofs.Host.Sequence
import TapeAdmin.Proofs.Text.Digits
import TapeAdmin.Proofs.Text.LetterCase
import TapeAdmin.Proofs.Text.Search
import TapeAdmin.Volume.Format

/-!
# What the formatting command is told

A request is refused before anything is executed, or the tape is formatted by one command. The
command is told the device, the label and the block size that it reads back from its arguments, and
the block size is the requested one, or that of the settings for a drive of the vendor Quantum. Only
the requested one is checked, so the command is told a block size out of range exactly where the one
of the settings is, and takes effect.
-/

namespace TapeAdmin

variable {σ : Type}

/-- A block size that a request may ask for. -/
def IsBlockSize (size : Nat) : Prop :=
  512 ≤ size ∧ size ≤ 2097152

/-- Every block size that a formatting command reads from its arguments is a number in range. -/
def CommandLine.TellsInRange (command : CommandLine) : Prop :=
  command.program = "mkltfs" → ∃ given operands,
    Options.read? "d:n:fb:" command.arguments = some (given, operands) ∧
      ∀ value, ('b', value) ∈ given →
        ∃ size, value = some (toString size) ∧ IsBlockSize size

namespace FormatRequest

variable (request : FormatRequest)

/-- The options that the formatting command reads from its arguments. -/
def options : List (Char × Option String) :=
  [('d', some request.device.text)] ++
    ((request.label.filter fun label => label ≠ "").toList.map fun label => ('n', some label)) ++
    (if request.force then [('f', none)] else []) ++
    request.blockSize.toList.map fun size => ('b', some (toString size))

theorem yields_labelArguments :
    Options.Yields (Options.declared "d:n:fb:".toList) request.labelArguments
      ((request.label.filter fun label => label ≠ "").toList.map
        fun label => ('n', some label)) := by
  rw [labelArguments]
  cases request.label with
  | none => exact .nil
  | some label =>
      by_cases empty : label = ""
      · simpa [empty, Option.filter] using .nil
      · simpa [empty, Option.filter] using .valued (by decide +kernel) (by decide) label

theorem read?_arguments :
    Options.read? "d:n:fb:" request.command.arguments = some (request.options, []) := by
  apply Options.read?_of_yields
  refine .append (.append (.append ?_ request.yields_labelArguments) ?_) ?_
  · exact .valued (by decide +kernel) (by decide) request.device.text
  · cases request.force with
    | true => exact .flag (by decide +kernel) (by decide)
    | false => exact .nil
  · cases request.blockSize with
    | none => exact .nil
    | some size => exact .valued (by decide +kernel) (by decide) (toString size)

/-- The only block size among the options is that of the request. -/
theorem mem_options_iff {value : Option String} :
    ('b', value) ∈ request.options ↔
      ∃ size, request.blockSize = some size ∧ some (toString size) = value := by
  cases forced : request.force <;> simp [options, forced]

theorem tellsInRange_iff :
    request.command.TellsInRange ↔
      ∀ size, request.blockSize = some size → IsBlockSize size := by
  constructor
  · intro tells size blockSize_eq
    rcases tells rfl with ⟨given, operands, read, in_range⟩
    rw [request.read?_arguments] at read
    cases read
    rcases in_range _ (request.mem_options_iff.mpr ⟨size, blockSize_eq, rfl⟩) with
      ⟨told, same, told_in_range⟩
    cases Text.eq_of_toString_eq (Option.some.inj same)
    exact told_in_range
  · intro in_range _
    refine ⟨request.options, [], request.read?_arguments, fun value told => ?_⟩
    rcases request.mem_options_iff.mp told with ⟨size, blockSize_eq, rfl⟩
    exact ⟨size, rfl, in_range size blockSize_eq⟩

theorem out_of_range_or_in_range :
    (∃ size, request.blockSize = some size ∧ ¬IsBlockSize size) ∨
      ∀ size, request.blockSize = some size → IsBlockSize size := by
  by_cases out : ∃ size, request.blockSize = some size ∧ ¬IsBlockSize size
  · exact .inl out
  · refine .inr fun size requested => ?_
    exact Classical.byContradiction fun outside => out ⟨size, requested, outside⟩

variable {request}

theorem validate_of_out_of_range {size : Nat} (asked : request.blockSize = some size)
    (outside : ¬IsBlockSize size) :
    request.validate = .error (.invalidParameter
      ("Block size must be between 512 and 2097152, got " ++ toString size)) := by
  rw [validate, asked]
  exact if_neg outside

theorem validate_of_in_range
    (inside : ∀ size, request.blockSize = some size → IsBlockSize size) :
    request.validate = .ok () := by
  rw [validate]
  split
  · rfl
  · next size asked => exact if_pos (inside size asked)

/-- The block size that the formatting command is told, by the answers to what is asked before. -/
def toldBlockSize (settings : FormatSettings) (request : FormatRequest)
    (answers : List CommandOutput) : Option Nat :=
  request.blockSize.or (if answers.any namesQuantum then some settings.quantumBlockSize else none)

end FormatRequest

/-- A text holds a word in some letter case. -/
def Text.Spells (word text : String) : Prop :=
  ∃ spelling, spelling <:+: text.toList ∧
    spelling.map Char.toUpper = word.toList.map Char.toUpper

theorem namesQuantum_iff (output : CommandOutput) :
    namesQuantum output = true ↔
      output.succeeded = true ∧ Text.Spells "quantum" output.stdout := by
  have raised : Text.IsRaisedAlone "QUANTUM".toList := by
    constructor <;> decide +kernel
  rw [namesQuantum, Bool.and_eq_true, Text.containsWord_iff, Text.upper,
    raised.infix_flatMap_iff]
  rfl

theorem FormatRequest.toldBlockSize_eq_some_iff {settings : FormatSettings}
    {request : FormatRequest} {answers : List CommandOutput} {size : Nat} :
    request.toldBlockSize settings answers = some size ↔
      request.blockSize = some size ∨ request.blockSize = none ∧
        (∃ answer ∈ answers, answer.succeeded = true ∧ Text.Spells "quantum" answer.stdout) ∧
        size = settings.quantumBlockSize := by
  have named : answers.any namesQuantum = true ↔
      ∃ answer ∈ answers, answer.succeeded = true ∧ Text.Spells "quantum" answer.stdout := by
    rw [List.any_eq_true]
    simp only [namesQuantum_iff]
  rw [toldBlockSize, Option.or_eq_some_iff, ← named]
  cases answers.any namesQuantum <;> simp [eq_comm]

namespace Host

variable (host : Host σ) (settings : FormatSettings) (request : FormatRequest)

/-- What is executed before the formatting command: the drive is asked for its vendor if no block
size is requested. -/
def inquiries : List CommandLine :=
  if request.blockSize = none then [{ program := "sg_inq", arguments := [request.device.text] }]
  else []

theorem program_of_mem_inquiries {command : CommandLine} (asks : command ∈ inquiries request) :
    command.program = "sg_inq" := by
  rw [inquiries] at asks
  split at asks <;> simp at asks
  rw [asks]

theorem withVendorBlockSize_run (world : World σ) :
    let asked := (host.runEach (inquiries request)).run world
    (host.withVendorBlockSize settings request).run world =
      ({ request with blockSize := request.toldBlockSize settings asked.1 }, asked.2) := by
  rcases request with ⟨device, label, force, blockSize⟩
  cases blockSize with
  | some size => rfl
  | none =>
      rcases ran : (host.run (inquiryCommand device)).run world with ⟨answer, after⟩
      have asked_eq : (host.runEach (inquiries { device, label, force })).run world =
          ([answer], after) := by
        change (host.runEach [inquiryCommand device]).run world = _
        rw [runEach_cons, ran]
        rfl
      rw [asked_eq, withVendorBlockSize]
      change (fun (inquired : CommandOutput × World σ) => (if namesQuantum inquired.1 then _ else _,
        inquired.2)) ((host.run (inquiryCommand device)).run world) = _
      rw [ran]
      cases named : namesQuantum answer <;> simp [FormatRequest.toldBlockSize, named]

theorem format_run {world : World σ}
    (inside : ∀ size, request.blockSize = some size → IsBlockSize size) :
    let asked := (host.runEach (inquiries request)).run world
    let told := { request with blockSize := request.toldBlockSize settings asked.1 }
    let ran := (host.run told.command).run asked.2
    (host.format settings request).run.run world = (.ok ran.1, ran.2) := by
  intro asked told ran
  rw [format, Attempt.run_bind_of_except_ok (FormatRequest.validate_of_in_range inside),
    Attempt.run_bind_lift, withVendorBlockSize_run]
  rfl

theorem format_run_of_out_of_range {world : World σ} {size : Nat}
    (requested : request.blockSize = some size) (outside : ¬IsBlockSize size) :
    (host.format settings request).run.run world =
      (.error (.invalidParameter
        ("Block size must be between 512 and 2097152, got " ++ toString size)), world) := by
  rw [format]
  exact Attempt.run_bind_of_except_error
    (FormatRequest.validate_of_out_of_range requested outside)

/-- The formatting command is the last of what is executed. -/
theorem executed_format {world : World σ}
    (inside : ∀ size, request.blockSize = some size → IsBlockSize size) :
    let asked := (host.runEach (inquiries request)).run world
    let told := { request with blockSize := request.toldBlockSize settings asked.1 }
    ((host.format settings request).run.run world).2.executed =
      world.executed ++ (inquiries request ++ [told.command]).map
        fun command => { command := command } := by
  intro asked told
  have asked_executed : asked.2.executed = _ := host.executed_runEach (inquiries request) world
  rcases host.run_run told.command asked.2 with ⟨output, tools, ran⟩
  rw [host.format_run settings request inside, ran]
  dsimp only
  rw [asked_executed, List.map_append, List.append_assoc]
  rfl

/--
A request that asks for a block size out of range is refused, and nothing is executed; no other
request is. Otherwise the drive is asked for its vendor exactly if no block size is requested, the
tape is formatted by one command whatever the answer, and the output is that of the command. The
command reads from its arguments the device, the label if there is one that is not empty, whether to
use force, and a block size, if any, which is the requested one, or that of the settings if the
drive answers and names the vendor Quantum.
-/
theorem format_outcome (world : World σ) :
    let ended := (host.format settings request).run.run world
    let asked := (host.runEach (inquiries request)).run world
    ((∃ failure, ended.1 = .error failure) ↔
      ∃ size, request.blockSize = some size ∧ ¬IsBlockSize size) ∧
    (∀ size, request.blockSize = some size → ¬IsBlockSize size →
      ended = (.error (.invalidParameter
        ("Block size must be between 512 and 2097152, got " ++ toString size)), world)) ∧
    ((∀ size, request.blockSize = some size → IsBlockSize size) →
      ∃ arguments blockSize,
        let command : CommandLine := { program := "mkltfs", arguments := arguments }
        let ran := (host.run command).run asked.2
        ended = (.ok ran.1, ran.2) ∧
        ended.2.executed = world.executed ++
          (inquiries request ++ [command]).map (fun command => { command := command }) ∧
        Options.read? "d:n:fb:" arguments = some (
          [('d', some request.device.text)] ++
            ((request.label.filter fun label => label ≠ "").toList.map
              fun label => ('n', some label)) ++
            (if request.force then [('f', none)] else []) ++
            blockSize.toList.map fun size => ('b', some (toString size)), []) ∧
        ∀ size : Nat, blockSize = some size ↔
          request.blockSize = some size ∨ request.blockSize = none ∧
            (∃ answer ∈ asked.1, answer.succeeded = true ∧ Text.Spells "quantum" answer.stdout) ∧
            size = settings.quantumBlockSize) := by
  intro ended asked
  have refused : ∀ size, request.blockSize = some size → ¬IsBlockSize size → ended = _ :=
    fun _ => host.format_run_of_out_of_range settings request
  rcases request.out_of_range_or_in_range with ⟨size, requested, outside⟩ | inside
  · refine ⟨iff_of_true ?_ ⟨size, requested, outside⟩, refused, fun inside => ?_⟩
    · rw [refused size requested outside]
      exact ⟨_, rfl⟩
    · exact absurd (inside size requested) outside
  · have ended_eq : ended = _ := host.format_run settings request inside
    refine ⟨iff_of_false (fun failed => ?_) (fun out => ?_), refused, fun _ => ?_⟩
    · rcases failed with ⟨failure, failed⟩
      rw [ended_eq] at failed
      cases failed
    · rcases out with ⟨size, requested, outside⟩
      exact outside (inside size requested)
    · let told := { request with blockSize := request.toldBlockSize settings asked.1 }
      exact ⟨told.command.arguments, told.blockSize, ended_eq,
        host.executed_format settings request inside, told.read?_arguments,
        fun _ => FormatRequest.toldBlockSize_eq_some_iff⟩

/-- A drive of the vendor Quantum and a label that starts with a dash, and a block size that is out
of range. -/
theorem format_outcome_quantum :
    let host := Host.scanning ⟨⟨"/dev"⟩, .error .notFound, fun _ => .accessible⟩
      (.saying " Vendor identification: Quantum\n")
    let request : FormatRequest := { device := ⟨"/dev/nst0"⟩, label := some "-f 1" }
    let small : FormatRequest := { device := ⟨"/dev/nst0"⟩, blockSize := some 256 }
    (∃ arguments,
      ((host.format {} request).run.run (.start ())).2.executed =
        [⟨{ program := "sg_inq", arguments := ["/dev/nst0"] }, none⟩,
          ⟨{ program := "mkltfs", arguments := arguments }, none⟩] ∧
      Options.read? "d:n:fb:" arguments =
        some ([('d', some "/dev/nst0"), ('n', some "-f 1"), ('b', some "65536")], [])) ∧
    (host.format {} small).run.run (.start ()) =
      (.error (.invalidParameter "Block size must be between 512 and 2097152, got 256"),
        .start ()) := by
  intro host request small
  rcases format_outcome host {} request (.start ()) with ⟨_, _, formats⟩
  rcases format_outcome host {} small (.start ()) with ⟨_, refuses, _⟩
  refine ⟨?_, refuses 256 rfl (fun inside => absurd inside.1 (by decide))⟩
  rcases formats (fun _ requested => nomatch requested) with
    ⟨arguments, blockSize, _, executed_eq, read, told⟩
  have spelled : Text.Spells "quantum" " Vendor identification: Quantum\n" :=
    ⟨"Quantum".toList, by decide +kernel, by decide +kernel⟩
  have blockSize_eq : blockSize = some 65536 :=
    (told 65536).mpr (.inr ⟨rfl, ⟨_, .head _, rfl, spelled⟩, rfl⟩)
  subst blockSize_eq
  exact ⟨arguments, executed_eq, read⟩

/--
The formatting command is told a block size in range exactly if that of the settings is in range
where it takes effect: no block size is requested, and the drive answers and names the vendor
Quantum.
-/
theorem format_tellsInRange_iff (world : World σ) :
    let ended := (host.format settings request).run.run world
    let asked := (host.runEach (inquiries request)).run world
    ∃ executed, ended.2.executed = world.executed ++ executed ∧
      ((∀ execution ∈ executed, execution.command.TellsInRange) ↔
        (request.blockSize = none →
          (∃ answer ∈ asked.1, answer.succeeded = true ∧ Text.Spells "quantum" answer.stdout) →
          IsBlockSize settings.quantumBlockSize)) := by
  intro ended asked
  rcases request.out_of_range_or_in_range with ⟨size, requested, outside⟩ | inside
  · refine ⟨[], ?_, iff_of_true (fun _ absent => nomatch absent) fun unrequested => ?_⟩
    · have refused : ended = _ :=
        host.format_run_of_out_of_range settings request requested outside
      rw [refused, List.append_nil]
    · exact nomatch unrequested.symm.trans requested
  · refine ⟨_, host.executed_format settings request inside, ?_⟩
    -- Of what is executed, only the last command formats a tape.
    have inquiries_in_range : ∀ command ∈ inquiries request, command.TellsInRange := by
      intro command asks formats
      rw [program_of_mem_inquiries request asks] at formats
      exact absurd formats (by decide)
    simp only [List.forall_mem_map, List.forall_mem_append, List.forall_mem_singleton]
    rw [and_iff_right inquiries_in_range, FormatRequest.tellsInRange_iff]
    simp only [FormatRequest.toldBlockSize_eq_some_iff]
    constructor
    · intro in_range unrequested named
      exact in_range _ (.inr ⟨unrequested, named, rfl⟩)
    · rintro applied size (requested | ⟨unrequested, named, rfl⟩)
      · exact inside size requested
      · exact applied unrequested named

/-- A configuration with a block size that no request may ask for is accepted, and a drive of the
vendor Quantum is formatted with it. -/
theorem format_tells_tooSmall :
    let host := Host.scanning ⟨⟨"/dev"⟩, .error .notFound, fun _ => .accessible⟩
      (.saying " Vendor identification: QUANTUM\n")
    let request : FormatRequest := { device := ⟨"/dev/nst0"⟩ }
    let document := "[format]\nquantum_block_size = 100\n"
    ∃ configuration, Configuration.ofDocument document = .ok configuration ∧
      ((host.format configuration.format request).run.run (.start ())).2.executed =
        [⟨{ program := "sg_inq", arguments := ["/dev/nst0"] }, none⟩,
          ⟨{ program := "mkltfs", arguments := ["-d", "/dev/nst0", "-b", "100"] }, none⟩] ∧
      ¬ ∀ execution ∈ ((host.format configuration.format request).run.run (.start ())).2.executed,
        execution.command.TellsInRange := by
  intro host request document
  have read : (Configuration.ofDocument document).toOption.map (·.format.quantumBlockSize) =
      some 100 := by
    decide +kernel
  rcases accepted : Configuration.ofDocument document with fault | configuration
  · rw [accepted] at read
    cases read
  have size_eq : configuration.format.quantumBlockSize = 100 := by
    rw [accepted] at read
    exact Option.some.inj read
  have spelled : Text.Spells "quantum" " Vendor identification: QUANTUM\n" :=
    ⟨"QUANTUM".toList, by decide +kernel, by decide +kernel⟩
  let told : FormatRequest := { request with blockSize := some 100 }
  have executed_eq :
      ((host.format configuration.format request).run.run (.start ())).2.executed =
        [⟨{ program := "sg_inq", arguments := ["/dev/nst0"] }, none⟩, ⟨told.command, none⟩] := by
    have told_eq : request.toldBlockSize configuration.format
        ((host.runEach (inquiries request)).run (.start ())).1 = some 100 :=
      FormatRequest.toldBlockSize_eq_some_iff.mpr
        (.inr ⟨rfl, ⟨_, .head _, rfl, spelled⟩, size_eq.symm⟩)
    rw [host.executed_format _ request (fun _ requested => nomatch requested), told_eq]
    rfl
  refine ⟨configuration, rfl, executed_eq, fun in_range => ?_⟩
  rw [executed_eq] at in_range
  have small := told.tellsInRange_iff.mp (in_range _ (.tail _ (.head _))) 100 rfl
  exact absurd small.1 (by decide)

end Host

end TapeAdmin
