import TapeAdmin.Command.Process
import TapeAdmin.Host
import TapeAdmin.Text.Search

/-!
# Scripted runners

A runner that answers commands from a list of rules instead of executing them. A rule answers the
commands whose text starts with its words; it can be limited to a number of uses. A program can be
declared missing, and then fails to start.
-/

namespace TapeAdmin

/-- One rule of a script. -/
structure ScriptRule where
  words : String
  output : CommandOutput
  /-- How often the rule answers; without a number there is no limit. -/
  uses : Option Nat := none
  /-- What the rule leaves in the response file. -/
  response : List UInt8 := []

namespace ScriptRule

/-- A rule answers a text that is its words, or starts with them and a space. -/
def answers (rule : ScriptRule) (text : String) : Bool :=
  match Text.afterWord? rule.words.toList text.toList with
  | some [] => true
  | some (char :: _) => char == ' '
  | none => false

/-- Whether the rule may answer once more. -/
def isAvailable (rule : ScriptRule) : Bool :=
  rule.uses != some 0

/-- The rule after one more use. -/
def used (rule : ScriptRule) : ScriptRule :=
  { rule with uses := rule.uses.map (· - 1) }

end ScriptRule

/-- The rules of a script, and the answer where none applies. -/
structure Script where
  rules : List ScriptRule
  fallback : CommandOutput
  missing : List String := []

/-- The first available rule for a text, with the rules after its use. -/
def ScriptRule.pick? (text : String) : List ScriptRule → Option (ScriptRule × List ScriptRule)
  | [] => none
  | rule :: rules =>
    if rule.isAvailable && rule.answers text then some (rule, rule.used :: rules)
    else (pick? text rules).map fun (picked, rest) => (picked, rule :: rest)

/-- The runner that follows a script; `view` is the text under which the rules see a command line.
-/
def Script.runner (view : CommandLine → String) : Runner Script where
  answer script execution :=
    if script.missing.contains execution.command.program then
      ({ output := .failure SystemError.notFound.message }, script)
    else
      match ScriptRule.pick? (view execution.command) script.rules with
      | some (rule, rules) =>
        ({ output := rule.output, response := rule.response }, { script with rules := rules })
      | none => ({ output := script.fallback }, script)

/-- A runner that, like an operating system, cannot start a command that holds a NUL character. -/
def Runner.refusingNul {σ : Type} (runner : Runner σ) : Runner σ where
  answer state execution :=
    if execution.command.holdsNul then
      ({ output := .failure SystemError.nulInProgram.message }, state)
    else runner.answer state execution

end TapeAdmin
