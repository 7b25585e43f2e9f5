import TapeAdmin.Command.Chain

/-!
# Commands one after another

What the tools answer to commands that are executed one after another, whatever they answer. A chain
of commands stops at the first success; whether it succeeds is whether any of its commands does.
-/

namespace TapeAdmin.Host

variable {σ : Type}

/-- Executes commands one after another, and returns what each of them put out. -/
def runEach (host : Host σ) (commands : List CommandLine) : Procedure σ (List CommandOutput) :=
  commands.mapM host.run

variable (host : Host σ)

/-- A command leaves a trace, and leaves alone all but the tools. -/
theorem run_run (command : CommandLine) (world : World σ) :
    ∃ output tools, (host.run command).run world = (output, { world with
      tools := tools, executed := world.executed ++ [{ command := command }] }) :=
  ⟨_, _, rfl⟩

@[simp]
theorem runEach_nil (world : World σ) : (host.runEach []).run world = ([], world) := by
  rw [runEach, List.mapM_nil]
  rfl

theorem runEach_cons (command : CommandLine) (rest : List CommandLine) (world : World σ) :
    (host.runEach (command :: rest)).run world =
      let first := (host.run command).run world
      let later := (host.runEach rest).run first.2
      (first.1 :: later.1, later.2) := by
  rw [runEach, List.mapM_cons]
  rfl

/-- Every command is executed once, in order. -/
theorem executed_runEach (commands : List CommandLine) (world : World σ) :
    ((host.runEach commands).run world).2.executed =
      world.executed ++ commands.map fun command => { command := command } := by
  induction commands generalizing world with
  | nil => simp
  | cons command rest ih =>
      rcases host.run_run command world with ⟨output, tools, ran⟩
      rw [runEach_cons, ran]
      dsimp only
      rw [ih, List.map_cons, List.append_assoc]
      rfl

/-- The last command of a chain decides alone. -/
theorem tryEach_singleton (command : CommandLine) (world : World σ) :
    (host.tryEach [command]).run world =
      let last := (host.run command).run world
      (⟨[command], last.1⟩, last.2) :=
  rfl

/-- A chain stops at its first command if that succeeds, and goes on otherwise. -/
theorem tryEach_cons (command next : CommandLine) (rest : List CommandLine) (world : World σ) :
    (host.tryEach (command :: next :: rest)).run world =
      let first := (host.run command).run world
      if first.1.succeeded then (⟨[command], first.1⟩, first.2)
      else
        let later := (host.tryEach (next :: rest)).run first.2
        (⟨command :: later.1.attempted, later.1.output⟩, later.2) := by
  rcases ran : (host.run command).run world with ⟨output, after⟩
  have reached : (host.tryEach (command :: next :: rest)).run world =
      (fun (first : CommandOutput × World σ) =>
        (if first.1.succeeded then Pure.pure ⟨[command], first.1⟩
        else do
          let later ← host.tryEach (next :: rest)
          Pure.pure ⟨command :: later.attempted, later.output⟩ :
            Procedure σ Attempts).run first.2) ((host.run command).run world) := rfl
  rw [reached, ran]
  dsimp only
  split <;> rfl

end TapeAdmin.Host

namespace TapeAdmin

variable {σ : Type}

/-- Tools that are told whether to succeed, and succeed once they are told nothing more. -/
def Runner.told : Runner (List Bool) where
  answer answers _ := (⟨{ succeeded := answers.headD true }, []⟩, answers.tail)

/-- Tools that always succeed. -/
def Runner.willing : Runner Unit where
  answer _ _ := (⟨{ succeeded := true }, []⟩, ())

/-- Tools that always succeed, and put out a text. -/
def Runner.saying (text : String) : Runner Unit where
  answer _ _ := (⟨{ succeeded := true, stdout := text }, []⟩, ())

/-- A host with a device directory and tools. -/
def Host.scanning (directory : DeviceDirectory) (runner : Runner σ) : Host σ where
  runner := runner
  devices _ := directory
  temporary := ⟨"/tmp"⟩
  now := "2024-01-01 00:00:00"

/-- The world before anything is executed, with an empty file system. -/
def World.start (tools : σ) : World σ :=
  ⟨tools, [], ⟨[], []⟩, "", [], []⟩

end TapeAdmin
