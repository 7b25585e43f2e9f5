import TapeAdmin.Mount.Control
import TapeAdmin.Proofs.Host.Sequence

/-!
# Chains that stop at the first success

A chain of commands executes some of its first commands, goes on only behind a failure, and reports
what the last executed command put out. Ejecting and unmounting are chains of two commands, so the
second is executed exactly if the first fails.
-/

namespace TapeAdmin

variable {σ : Type}

namespace Host

/-- What became of a chain: the attempted commands are executed one after another, and `outputs` is
what they put out. -/
structure Tried (host : Host σ) (commands : List CommandLine) (before : World σ)
    (attempts : Attempts) (outputs : List CommandOutput) (after : World σ) : Prop where
  starts : attempts.attempted <+: commands
  runs : (host.runEach attempts.attempted).run before = (outputs, after)
  goes_on : ∀ output ∈ outputs.dropLast, output.succeeded = false
  reports : commands ≠ [] → outputs.getLast? = some attempts.output
  fails_iff : attempts.succeeded = false ↔
    attempts.attempted = commands ∧ ∀ output ∈ outputs, output.succeeded = false

variable {host : Host σ} {commands : List CommandLine} {before after : World σ}
  {attempts : Attempts} {outputs : List CommandOutput}

/-- An attempted command that succeeds is the last one. -/
theorem Tried.of_first {command : CommandLine} {output : CommandOutput}
    (ran : (host.run command).run before = (output, after))
    (stops : output.succeeded = true ∨ commands = []) :
    host.Tried (command :: commands) before ⟨[command], output⟩ [output] after where
  starts := by simp
  runs := by
    rw [runEach_cons, ran]
    rfl
  goes_on := by simp
  reports := by simp
  fails_iff := by
    rcases stops with succeeded | rfl
    · simp [Attempts.succeeded, succeeded]
    · simp [Attempts.succeeded]

/-- Behind a failure a chain goes on with the other commands. -/
theorem Tried.of_later {command : CommandLine} {output : CommandOutput} {between : World σ}
    (ran : (host.run command).run before = (output, between)) (failed : output.succeeded = false)
    (some_command : commands ≠ []) (later : host.Tried commands between attempts outputs after) :
    host.Tried (command :: commands) before ⟨command :: attempts.attempted, attempts.output⟩
      (output :: outputs) after where
  starts := List.cons_prefix_cons.mpr ⟨rfl, later.starts⟩
  runs := by
    rw [runEach_cons, ran]
    dsimp only
    rw [later.runs]
  goes_on := by
    have put : outputs ≠ [] := by
      rintro rfl
      cases later.reports some_command
    intro other other_mem
    rw [List.dropLast_cons_of_ne_nil put, List.mem_cons] at other_mem
    rcases other_mem with rfl | other_mem
    · exact failed
    · exact later.goes_on other other_mem
  reports _ := by
    rw [List.getLast?_cons, later.reports some_command]
    rfl
  fails_iff := by
    have fails := later.fails_iff
    simp only [Attempts.succeeded] at fails ⊢
    simp [fails, failed]

/-- Trying commands in order executes some of the first ones, up to the first success. -/
theorem tried_tryEach (host : Host σ) (commands : List CommandLine) (world : World σ) :
    let ended := (host.tryEach commands).run world
    ∃ outputs, host.Tried commands world ended.1 outputs ended.2 := by
  induction commands generalizing world with
  | nil =>
      refine ⟨[], List.prefix_rfl, host.runEach_nil world, by simp, by simp, ?_⟩
      exact ⟨fun _ => ⟨rfl, by simp⟩, fun _ => rfl⟩
  | cons command rest ih =>
      rcases ran : (host.run command).run world with ⟨output, between⟩
      -- The last command is the end of the chain whether or not it succeeds.
      cases rest with
      | nil =>
          have alone : (host.tryEach [command]).run world = (⟨[command], output⟩, between) := by
            rw [tryEach_singleton, ran]
          rw [alone]
          exact ⟨[output], .of_first ran (.inr rfl)⟩
      | cons next rest =>
          rw [tryEach_cons, ran]
          dsimp only
          split
          · next succeeded => exact ⟨[output], .of_first ran (.inl succeeded)⟩
          · next failed =>
              rcases ih between with ⟨outputs, later⟩
              rw [Bool.not_eq_true] at failed
              exact ⟨output :: outputs, later.of_later ran failed (List.cons_ne_nil _ _)⟩

/-- The attempted commands are what is executed, each once and in order. -/
theorem Tried.executed (tried : host.Tried commands before attempts outputs after) :
    after.executed =
      before.executed ++ attempts.attempted.map fun command => { command := command } := by
  have ran := host.executed_runEach attempts.attempted before
  rw [tried.runs] at ran
  exact ran

/-- A chain of two commands executes the second exactly if the first fails, and reports what the
last one puts out. -/
theorem tryEach_pair (host : Host σ) (first second : CommandLine) (world : World σ) :
    let ended := (host.tryEach [first, second]).run world
    let tried := (host.run first).run world
    let last := if tried.1.succeeded then tried else (host.run second).run tried.2
    ended.1.output = last.1 ∧ ended.2 = last.2 ∧
      ended.2.executed = world.executed ++
        (if tried.1.succeeded then [{ command := first }]
          else [{ command := first }, { command := second }]) := by
  intro ended tried last
  have ended_eq := host.tryEach_cons first second [] world
  change ended = if tried.1.succeeded then _ else _ at ended_eq
  cases succeeded : tried.1.succeeded with
  | true =>
      have last_eq : last = tried := if_pos succeeded
      rw [ended_eq, if_pos succeeded, last_eq]
      exact ⟨rfl, rfl, rfl⟩
  | false =>
      have failed : ¬tried.1.succeeded = true := by simp [succeeded]
      have last_eq : last = (host.run second).run tried.2 := if_neg failed
      rw [ended_eq, if_neg failed, last_eq]
      exact ⟨rfl, rfl, List.append_assoc _ [_] [_]⟩

/--
Commands are tried in order until one succeeds. What is attempted is a list of the first of them,
and it is executed one after another and nothing else: all attempted commands but the last fail, the
output is what the last one puts out, and the chain fails exactly if every command is attempted and
all fail. Without commands nothing is executed, and the chain fails. So a tape is ejected by taking
the drive offline, and a mount point is unmounted through `fusermount`, exactly if the command
before it fails, and what is reported is what the last executed command puts out.
-/
theorem tryEach_stops_at_first_success (host : Host σ) (world : World σ) :
    (∀ commands,
      let ended := (host.tryEach commands).run world
      let ran := (host.runEach ended.1.attempted).run world
      ended.2 = ran.2 ∧
      ended.2.executed = world.executed ++
        ended.1.attempted.map (fun command => { command := command }) ∧
      ended.1.attempted <+: commands ∧
      (∀ output ∈ ran.1.dropLast, output.succeeded = false) ∧
      (commands ≠ [] → ran.1.getLast? = some ended.1.output) ∧
      (ended.1.succeeded = false ↔
        ended.1.attempted = commands ∧ ∀ output ∈ ran.1, output.succeeded = false)) ∧
    (((host.tryEach []).run world).2 = world ∧
      ((host.tryEach []).run world).1.succeeded = false) ∧
    (∀ device,
      let ended := (host.eject device).run world
      let eject : CommandLine := { program := "mt", arguments := ["-f", device.text, "eject"] }
      let offline : CommandLine := { program := "mt", arguments := ["-f", device.text, "offline"] }
      let first := (host.run eject).run world
      let last := if first.1.succeeded then first else (host.run offline).run first.2
      ended.1.output = last.1 ∧ ended.2 = last.2 ∧
        ended.2.executed = world.executed ++
          (if first.1.succeeded then [{ command := eject }]
            else [{ command := eject }, { command := offline }])) ∧
    (∀ table mountPoint,
      let ended := (host.unmount table mountPoint).run world
      let umount : CommandLine := { program := "umount", arguments := [mountPoint.text] }
      let fusermount : CommandLine :=
        { program := "fusermount", arguments := ["-u", mountPoint.text] }
      let first := (host.run umount).run world
      let last := if first.1.succeeded then first else (host.run fusermount).run first.2
      ended.1.1.output = last.1 ∧ ended.2 = last.2 ∧
        ended.2.executed = world.executed ++
          (if first.1.succeeded then [{ command := umount }]
            else [{ command := umount }, { command := fusermount }])) := by
  refine ⟨?_, ?_, ?_, ?_⟩
  · intro commands ended ran
    rcases host.tried_tryEach commands world with ⟨outputs, tried⟩
    have ran_eq : ran = (outputs, ended.2) := tried.runs
    rw [ran_eq]
    exact ⟨rfl, tried.executed, tried.starts, tried.goes_on, tried.reports, tried.fails_iff⟩
  · exact ⟨rfl, rfl⟩
  · intro device
    exact host.tryEach_pair _ _ world
  · intro table mountPoint
    exact host.tryEach_pair _ _ world

/-- The second of three commands succeeds, and the third is not executed. -/
theorem tryEach_stops_at_first_success_second :
    let host := Host.scanning ⟨⟨"/dev"⟩, .error .notFound, fun _ => .accessible⟩ .told
    let command (name : String) : CommandLine := { program := name, arguments := [] }
    let world : World (List Bool) := .start [false, true, false]
    let ended := (host.tryEach [command "a", command "b", command "c"]).run world
    let ran := (host.runEach ended.1.attempted).run world
    ended.1.attempted = [command "a", command "b"] ∧ ran.1.getLast? = some ended.1.output := by
  intro host command world ended ran
  rcases (tryEach_stops_at_first_success host world).1 [command "a", command "b", command "c"] with
    ⟨_, _, _, _, reports, _⟩
  exact ⟨rfl, reports (List.cons_ne_nil _ _)⟩

end Host

end TapeAdmin
