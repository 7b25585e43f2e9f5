import Mathlib.Data.List.Nodup
import TapeAdmin.Proofs.Command.Chain
import TapeAdmin.Proofs.File.Storage
import TapeAdmin.Proofs.Mount.Session
import TapeAdmin.Proofs.Text.Joining

/-!
# The commands of a mount

A mount executes nothing unless its mount point can be created. Then the tape is rewound if so
configured, and the mount commands are tried whatever became of that. The option text of each mount
command comes apart into the options that it was joined from, and no two of the commands are equal.
-/

namespace TapeAdmin

variable {σ : Type}

namespace MountRequest

variable (request : MountRequest)

/-- The option text of one variant. -/
def optionText (extra : List String) : String :=
  String.intercalate "," (request.optionList extra)

theorem ownOptions_eq :
    request.ownOptions = (request.options.map Text.trim).filter fun option => option ≠ "" := by
  refine List.filter_congr fun option _ => ?_
  by_cases empty : option = "" <;> simp [String.isEmpty_iff, empty]

theorem mem_ownOptions {option : String} (own : option ∈ request.ownOptions) :
    ∃ given ∈ request.options, Text.trim given = option :=
  List.mem_map.mp (List.mem_filter.mp own).1

variable {request}

/-- The options come back from the option text if neither the device nor an option of the operator
holds a comma. -/
theorem splitAt_optionText {extra : List String} (known : extra ∈ optionSets)
    (bare_device : ',' ∉ request.device.text.toList)
    (bare_options : ∀ option ∈ request.options, ',' ∉ (Text.trim option).toList) :
    Text.splitAt ',' (request.optionText extra) = request.optionList extra := by
  have bare_extra : ∀ extra ∈ optionSets, ∀ option ∈ extra, ',' ∉ option.toList := by
    decide +kernel
  refine Text.splitAt_intercalate (List.cons_ne_nil _ _) ?_
  intro option option_mem
  -- An option is that of the device, one of the variant, or one of the operator.
  rcases List.mem_append.mp option_mem with option_mem | option_mem
  · rcases List.mem_cons.mp option_mem with rfl | option_mem
    · rw [String.toList_append, List.mem_append]
      have bare_word : ',' ∉ "devname=".toList := by decide
      exact fun comma => comma.elim bare_word bare_device
    · exact bare_extra extra known option option_mem
  · rcases request.mem_ownOptions option_mem with ⟨given, given_mem, rfl⟩
    exact bare_options given given_mem

/-- How much longer the options of a variant make its option text. -/
def extraLength (extra : List String) : Nat :=
  (extra.map fun option => option.length + 1).sum

theorem length_optionText (request : MountRequest) (extra : List String) :
    (request.optionText extra).length =
      (request.optionText []).length + extraLength extra := by
  rw [optionText, optionText, optionList, optionList, List.cons_append, List.cons_append,
    Text.length_intercalate_comma, Text.length_intercalate_comma, List.nil_append, List.map_append,
    List.sum_append, extraLength]
  omega

/-- The option texts have different lengths, so the variants are different. -/
theorem nodup_commands (request : MountRequest) : request.commands.Nodup := by
  have different : (optionSets.map extraLength).Nodup := by decide +kernel
  have lengths : request.commands.map (fun command => (command.arguments[1]?.getD "").length) =
      (optionSets.map extraLength).map fun extra => (request.optionText []).length + extra := by
    rw [commands, List.map_map, List.map_map]
    exact List.map_congr_left fun extra _ => request.length_optionText extra
  refine List.Nodup.of_map (fun command => (command.arguments[1]?.getD "").length) ?_
  rw [lengths]
  exact different.map fun _ _ same => Nat.add_left_cancel same

/-- The commands that a mount tries: four, no two of them equal, and each is `ltfs` with an option
text that comes apart into the options of its variant. -/
structure HasVariants (request : MountRequest) : Prop where
  commands : request.commands = optionSets.map (fun extra =>
    { program := "ltfs"
      arguments := ["-o", request.optionText extra, request.mountPoint.text] })
  four : request.commands.length = 4
  different : request.commands.Nodup
  comes_apart : ',' ∉ request.device.text.toList →
    (∀ option ∈ request.options, ',' ∉ (Text.trim option).toList) →
    ∀ extra ∈ optionSets,
      Text.splitAt ',' (request.optionText extra) =
        ("devname=" ++ request.device.text) :: extra ++
          (request.options.map Text.trim).filter fun option => option ≠ ""

theorem hasVariants (request : MountRequest) : request.HasVariants where
  commands := rfl
  four := rfl
  different := request.nodup_commands
  comes_apart bare_device bare_options extra known := by
    rw [splitAt_optionText known bare_device bare_options, optionList, ownOptions_eq]

end MountRequest

namespace Host

variable (host : Host σ) (settings : MountSettings) (table : MountTable) (request : MountRequest)

/-- What is executed before the mount commands: the tape is rewound if so configured. -/
def rewinding : List CommandLine :=
  if settings.rewindBeforeMount then
    [{ program := "mt", arguments := ["-f", request.device.text, "rewind"] }]
  else []

/-- What a mount comes to whose mount point cannot be created. -/
structure MountRefused (before : World σ) (attempts : Attempts) (after : World σ) : Prop where
  nothing_attempted : attempts.attempted = []
  fails : attempts.succeeded = false
  nothing_executed : after.executed = before.executed
  same_tools : after.tools = before.tools

/-- What a mount comes to that has its mount point: `rewound` is the world behind the rewinding, and
`outputs` is what the attempted commands put out. -/
structure MountTried (before rewound : World σ) (attempts : Attempts)
    (outputs : List CommandOutput) (after : World σ) : Prop where
  tries : (attempts, after) = (host.tryEach request.commands).run rewound
  runs : (host.runEach attempts.attempted).run rewound = (outputs, after)
  /-- The rewinding is executed, but it is not attempted. -/
  executed : after.executed = before.executed ++
    (rewinding settings request ++ attempts.attempted).map fun command => { command := command }
  starts : attempts.attempted <+: request.commands
  goes_on : ∀ output ∈ outputs.dropLast, output.succeeded = false
  reports : outputs.getLast? = some attempts.output
  fails_iff : attempts.succeeded = false ↔
    attempts.attempted = request.commands ∧ ∀ output ∈ outputs, output.succeeded = false

theorem prepareMount_of_not_created {world after : World σ} {error : SystemError}
    (refused : (createMountPoint request.mountPoint : Procedure σ _).run world =
      (.error error, after)) :
    (host.prepareMount settings request).run world = (.error error, after) := by
  rw [prepareMount, StateT.run_bind, refused]
  rfl

theorem prepareMount_of_created {world after : World σ}
    (made : (createMountPoint request.mountPoint : Procedure σ _).run world = (.ok (), after)) :
    (host.prepareMount settings request).run world =
      (.ok (), ((host.runEach (rewinding settings request)).run after).2) := by
  rw [prepareMount, StateT.run_bind, made, rewinding]
  cases settings.rewindBeforeMount <;> rfl

/-- Without a mount point nothing is executed. -/
theorem mountRefused_of_not_created {world : World σ} {error : SystemError}
    (refused : ((createMountPoint request.mountPoint : Procedure σ _).run world).1 =
      .error error) :
    let mounted := (host.mount settings table request).run world
    MountRefused world mounted.1.1 mounted.2 := by
  rcases creation : (createMountPoint request.mountPoint : Procedure σ _).run world with
    ⟨created, after⟩
  have untouched : after.executed = world.executed ∧ after.tools = world.tools := by
    have after_eq := congrArg Prod.snd creation
    change _ = after at after_eq
    rw [← after_eq]
    exact ⟨rfl, rfl⟩
  rw [creation] at refused
  change created = .error error at refused
  subst refused
  rw [mount, StateT.run_bind, host.prepareMount_of_not_created settings request creation]
  exact ⟨rfl, rfl, untouched.1, untouched.2⟩

theorem tryMount_attempts (world : World σ) :
    let mounted := (host.tryMount table request).run world
    (mounted.1.1, mounted.2) = (host.tryEach request.commands).run world := by
  rcases tried : (host.tryEach request.commands).run world with ⟨attempts, after⟩
  rw [tryMount, StateT.run_bind, tried]
  change let mounted :=
      (if attempts.succeeded then _ else _ : Procedure σ (Attempts × MountTable)).run after
    (mounted.1.1, mounted.2) = (attempts, after)
  split <;> rfl

/-- With a mount point the mount commands are tried from the world behind the rewinding, whatever
that put out. -/
theorem mountTried_of_created {world : World σ}
    (made : ((createMountPoint request.mountPoint : Procedure σ _).run world).1 = .ok ()) :
    let created := (createMountPoint request.mountPoint : Procedure σ _).run world
    let mounted := (host.mount settings table request).run world
    let rewound := (host.runEach (rewinding settings request)).run created.2
    let ran := (host.runEach mounted.1.1.attempted).run rewound.2
    host.MountTried settings request world rewound.2 mounted.1.1 ran.1 mounted.2 := by
  intro created mounted rewound ran
  have created_eq : created = (.ok (), created.2) := congrArg (·, created.2) made
  have prepared := host.prepareMount_of_created settings request created_eq
  have tried_eq : (mounted.1.1, mounted.2) = (host.tryEach request.commands).run rewound.2 := by
    rw [← host.tryMount_attempts table request rewound.2]
    dsimp only [mounted]
    rw [mount, StateT.run_bind, prepared]
    rfl
  rcases host.tried_tryEach request.commands rewound.2 with ⟨outputs, tried⟩
  rw [← tried_eq] at tried
  have ran_eq : ran = (outputs, mounted.2) := tried.runs
  have rewound_executed : rewound.2.executed = _ :=
    host.executed_runEach (rewinding settings request) created.2
  rw [ran_eq]
  refine ⟨tried_eq, tried.runs, ?_, tried.starts, tried.goes_on,
    tried.reports (List.cons_ne_nil _ _), tried.fails_iff⟩
  rw [tried.executed, rewound_executed, List.map_append, List.append_assoc]
  rfl

/--
What a mount executes. If the mount point cannot be created, it is nothing at all, and the mount
fails with nothing attempted. Otherwise the tape is rewound first if so configured, which is no part
of what is attempted, and the mount goes on from the world behind it whatever it put out: the mount
commands are tried in order, up to the first that succeeds, or all of them if none does. They are
four, no two of them equal, and each is `ltfs` with an option text. If neither the device nor a
trimmed option of the operator holds a comma, the option text comes apart at its commas into the
device, the options of the variant, and the trimmed options of the operator that are not empty.
-/
theorem mount_outcome (world : World σ) :
    let created := (createMountPoint request.mountPoint : Procedure σ _).run world
    let mounted := (host.mount settings table request).run world
    let rewound := (host.runEach (rewinding settings request)).run created.2
    let ran := (host.runEach mounted.1.1.attempted).run rewound.2
    (∀ error, created.1 = .error error → MountRefused world mounted.1.1 mounted.2) ∧
    (created.1 = .ok () →
      host.MountTried settings request world rewound.2 mounted.1.1 ran.1 mounted.2) ∧
    request.HasVariants := by
  intro created mounted rewound ran
  refine ⟨fun error refused => ?_, fun made => ?_, request.hasVariants⟩
  · exact host.mountRefused_of_not_created settings table request refused
  · exact host.mountTried_of_created settings table request made

theorem ensureDirectory_mnt :
    ((⟨[], []⟩ : FileSystem).ensureDirectory ⟨"/mnt"⟩).2 = .ok () := by
  have checked : FileSystem.checkPath ⟨"/mnt"⟩ = .ok () := rfl
  have segments_eq : (⟨"/mnt"⟩ : FilePath).segments = ["mnt"] := by decide +kernel
  have made : (⟨[], []⟩ : FileSystem).createOne [] ["mnt"] =
      .ok (FileSystem.put ⟨[], []⟩ ["mnt"] .directory) := by
    rw [FileSystem.createOne, if_neg (by decide),
      FileSystem.parentPlace_singleton rfl (by decide)]
    rfl
  rw [FileSystem.ensureDirectory, if_neg (by decide), checked, segments_eq]
  change (FileSystem.ensureChain _ [] (["mnt"] :: _)).2 = _
  rw [FileSystem.ensureChain, made]

/-- The rewinding and the first mount command fail, and an option has blanks around it. -/
theorem mount_outcome_second :
    let host := Host.scanning ⟨⟨"/dev"⟩, .error .notFound, fun _ => .accessible⟩ .told
    let request : MountRequest := ⟨⟨"/dev/st0"⟩, ⟨"/mnt"⟩, [" ro ", ""]⟩
    let refused : MountRequest := ⟨⟨"/dev/st0"⟩, ⟨"/mnt/\x00"⟩, []⟩
    let world : World (List Bool) := .start [false, false, true]
    let mounted := (host.mount {} .empty request).run world
    mounted.1.1.attempted <+: request.commands ∧
      Text.splitAt ',' (request.optionText ["sync_type=unmount"]) =
        ["devname=/dev/st0", "sync_type=unmount", "ro"] ∧
      ((host.mount {} .empty refused).run world).1.1.attempted = [] := by
  intro host request refused world mounted
  rcases mount_outcome host {} .empty request world with ⟨_, made, variants⟩
  rcases mount_outcome host {} .empty refused world with ⟨not_made, _⟩
  have created :
      ((createMountPoint ⟨"/mnt"⟩).run (.start [false, false, true])).1 = .ok () :=
    ensureDirectory_mnt
  have not_created :
      ((createMountPoint ⟨"/mnt/\x00"⟩).run (.start [false, false, true])).1 =
        .error .nulInFileName :=
    rfl
  have own : (request.options.map Text.trim).filter (fun option => option ≠ "") = ["ro"] := by
    decide +kernel
  refine ⟨(made created).starts, ?_, (not_made _ not_created).nothing_attempted⟩
  have known : ["sync_type=unmount"] ∈ MountRequest.optionSets := by decide
  rw [variants.comes_apart (by decide +kernel) (by decide +kernel) _ known, own]
  rfl

end Host

end TapeAdmin
