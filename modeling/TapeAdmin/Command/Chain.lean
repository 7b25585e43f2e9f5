import TapeAdmin.Host

/-!
# Chains of commands

Several commands that may do the same job are tried in order until one succeeds.
-/

namespace TapeAdmin

/-- What became of a chain: the commands executed, and the output of the last of them. -/
structure Attempts where
  attempted : List CommandLine
  output : CommandOutput
  deriving Repr

/-- A chain succeeds with its last executed command. -/
def Attempts.succeeded (attempts : Attempts) : Bool :=
  attempts.output.succeeded

/-- Tries commands in order until one succeeds. -/
def Host.tryEach {σ : Type} (host : Host σ) : List CommandLine → Procedure σ Attempts
  | [] => pure ⟨[], .failure "no command variants to try"⟩
  | [command] => do
    let output ← host.run command
    pure ⟨[command], output⟩
  | command :: next :: rest => do
    let output ← host.run command
    if output.succeeded then pure ⟨[command], output⟩
    else
      let later ← host.tryEach (next :: rest)
      pure ⟨command :: later.attempted, later.output⟩

end TapeAdmin
