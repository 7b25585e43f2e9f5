import TapeAdmin.Cartridge.Request
import TapeAdmin.Mount.Control
import TapeAdmin.Proofs.Host.Relation

/-!
# Traces

What a procedure executes is added to what was executed before it. Most procedures execute commands
of one kind only; some execute one command of a special kind among them.
-/

namespace TapeAdmin

variable {σ α : Type}

namespace World

/-- The commands executed between two worlds are of one kind. -/
def Executes (kind : CommandLine → Prop) (before after : World σ) : Prop :=
  ∃ executed, after.executed = before.executed ++ executed ∧
    ∀ execution ∈ executed, kind execution.command

/-- Commands of one kind are executed, and nothing is read from the terminal. -/
structure Ran (kind : CommandLine → Prop) (before after : World σ) : Prop where
  executes : Executes kind before after
  typed : after.typed = before.typed

/-- One special command is executed, and commands of one kind before it and after it. -/
def ExecutesOnce (special kind : CommandLine → Prop) (before after : World σ) : Prop :=
  ∃ earlier execution later,
    after.executed = before.executed ++ (earlier ++ execution :: later) ∧
      special execution.command ∧
      (∀ other ∈ earlier, kind other.command) ∧
      ∀ other ∈ later, kind other.command

variable {kind special : CommandLine → Prop} {before between after : World σ}

theorem Executes.of_eq (same : after.executed = before.executed) : Executes kind before after :=
  ⟨[], by rw [same, List.append_nil], by simp⟩

theorem Executes.trans (first : Executes kind before between)
    (second : Executes kind between after) : Executes kind before after := by
  rcases first with ⟨earlier, earlier_eq, earlier_kind⟩
  rcases second with ⟨later, later_eq, later_kind⟩
  refine ⟨earlier ++ later, by rw [later_eq, earlier_eq, List.append_assoc], ?_⟩
  intro execution execution_mem
  rcases List.mem_append.mp execution_mem with execution_mem | execution_mem
  · exact earlier_kind execution execution_mem
  · exact later_kind execution execution_mem

theorem Ran.of_eq (executed : after.executed = before.executed)
    (typed : after.typed = before.typed) : Ran kind before after :=
  ⟨.of_eq executed, typed⟩

theorem Ran.mono {wider : CommandLine → Prop} (ran : Ran kind before after)
    (le : ∀ command, kind command → wider command) : Ran wider before after := by
  rcases ran with ⟨⟨executed, executed_eq, executed_kind⟩, typed⟩
  refine ⟨⟨executed, executed_eq, ?_⟩, typed⟩
  intro execution execution_mem
  exact le _ (executed_kind execution execution_mem)

theorem chains_ran : Chains (Ran kind : World σ → World σ → Prop) where
  refl _ := .of_eq rfl rfl
  trans first second := ⟨first.executes.trans second.executes, second.typed.trans first.typed⟩

/-- A property that no command of the kind has is not counted. -/
theorem Executes.countP (executes : Executes kind before after) :
    ∃ executed, after.executed = before.executed ++ executed ∧
      ∀ counted : CommandLine → Bool, (∀ command, kind command → counted command = false) →
        executed.countP (fun execution => counted execution.command) = 0 := by
  rcases executes with ⟨executed, executed_eq, executed_kind⟩
  refine ⟨executed, executed_eq, ?_⟩
  intro counted none_counted
  rw [List.countP_eq_zero]
  intro execution execution_mem
  simp [none_counted _ (executed_kind execution execution_mem)]

theorem ExecutesOnce.of_execution {execution : Execution}
    (executed : after.executed = before.executed ++ [execution])
    (is_special : special execution.command) : ExecutesOnce special kind before after :=
  ⟨[], execution, [], executed, is_special, by simp, by simp⟩

theorem Executes.trans_once (first : Executes kind before between)
    (second : ExecutesOnce special kind between after) :
    ExecutesOnce special kind before after := by
  rcases first with ⟨front, front_eq, front_kind⟩
  rcases second with ⟨earlier, execution, later, parts, is_special, earlier_kind, later_kind⟩
  refine ⟨front ++ earlier, execution, later, ?_, is_special, ?_, later_kind⟩
  · rw [parts, front_eq]
    simp only [List.append_assoc]
  · intro other other_mem
    rcases List.mem_append.mp other_mem with other_mem | other_mem
    · exact front_kind other other_mem
    · exact earlier_kind other other_mem

theorem ExecutesOnce.trans (first : ExecutesOnce special kind before between)
    (second : Executes kind between after) : ExecutesOnce special kind before after := by
  rcases first with ⟨earlier, execution, later, parts, is_special, earlier_kind, later_kind⟩
  rcases second with ⟨back, back_eq, back_kind⟩
  refine ⟨earlier, execution, later ++ back, ?_, is_special, earlier_kind, ?_⟩
  · rw [back_eq, parts]
    simp only [List.append_assoc, List.cons_append]
  · intro other other_mem
    rcases List.mem_append.mp other_mem with other_mem | other_mem
    · exact later_kind other other_mem
    · exact back_kind other other_mem

/-- A property that no command of the kind has is counted where the special command has it. -/
theorem ExecutesOnce.countP (once : ExecutesOnce special kind before after) :
    ∃ (executed : List Execution) (execution : Execution),
      after.executed = before.executed ++ executed ∧
      special execution.command ∧
      ∀ counted : CommandLine → Bool, (∀ command, kind command → counted command = false) →
        executed.countP (fun execution => counted execution.command) =
          if counted execution.command then 1 else 0 := by
  rcases once with ⟨earlier, execution, later, parts, is_special, earlier_kind, later_kind⟩
  refine ⟨earlier ++ execution :: later, execution, parts, is_special, ?_⟩
  intro counted none_counted
  have not_counted {others : List Execution} (others_kind : ∀ other ∈ others, kind other.command) :
      others.countP (fun execution => counted execution.command) = 0 := by
    rw [List.countP_eq_zero]
    intro other other_mem
    simp [none_counted _ (others_kind other other_mem)]
  rw [List.countP_append, List.countP_cons, not_counted earlier_kind, not_counted later_kind]
  simp

end World

/-- A special command stays the only one if none is attempted after it. -/
theorem Attempt.executesOnce_bind {β : Type} {special kind : CommandLine → Prop}
    {first : Attempt σ α} {next : α → Attempt σ β} {world : World σ}
    (once : World.ExecutesOnce special kind world (first.run.run world).2)
    (rest : ∀ value, Respects (World.Ran kind) (next value).run) :
    World.ExecutesOnce special kind world ((first >>= next).run.run world).2 := by
  rcases done : first.run.run world with ⟨result, after⟩
  rw [done] at once
  cases result with
  | ok value =>
      rw [run_bind_of_ok done]
      exact once.trans (rest value after).executes
  | error failure =>
      rw [run_bind_of_error done]
      exact once

namespace World.Ran

variable {kind : CommandLine → Prop}

theorem respects_execute (host : Host σ) {execution : Execution}
    (is_kind : kind execution.command) : Respects (Ran kind) (host.execute execution) := by
  intro world
  refine ⟨⟨[execution], rfl, ?_⟩, rfl⟩
  intro other other_mem
  rw [List.mem_singleton.mp other_mem]
  exact is_kind

theorem respects_run (host : Host σ) {command : CommandLine} (is_kind : kind command) :
    Respects (Ran kind) (host.run command) :=
  .map (respects_execute host is_kind) Reply.output

theorem respects_print (text : String) : Respects (Ran kind) (print text : Procedure σ Unit) :=
  fun _ => .of_eq rfl rfl

theorem respects_createMountPoint (mountPoint : FilePath) :
    Respects (Ran kind) (Host.createMountPoint mountPoint : Procedure σ _) :=
  fun _ => .of_eq rfl rfl

end World.Ran

end TapeAdmin
