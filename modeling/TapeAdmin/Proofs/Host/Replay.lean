import TapeAdmin.Command.Chain
import TapeAdmin.Proofs.Host.Relation

/-!
# What commands put out

The history of a world holds commands and not what they put out. That can be told all the same, by
having the tools answer the same commands once more. A procedure is described by its value together
with everything put out so far, so that a statement about the last command of a request follows from
one rule for each step that the request is made of.
-/

namespace TapeAdmin

variable {σ α β : Type}

/-- What tools put out for executions one after another, and the tools after them. -/
def Runner.replay (runner : Runner σ) (tools : σ) : List Execution → List CommandOutput × σ
  | [] => ([], tools)
  | execution :: later =>
    let first := runner.answer tools execution
    let rest := runner.replay first.2 later
    (first.1.output :: rest.1, rest.2)

theorem Runner.replay_append (runner : Runner σ) (tools : σ) (earlier later : List Execution) :
    runner.replay tools (earlier ++ later) =
      let first := runner.replay tools earlier
      let rest := runner.replay first.2 later
      (first.1 ++ rest.1, rest.2) := by
  induction earlier generalizing tools with
  | nil => rfl
  | cons execution others ih =>
      rw [List.cons_append, replay, ih]
      rfl

/-- What the tools put out from one world to a later one. -/
def Host.outputs (host : Host σ) (before after : World σ) : List CommandOutput :=
  (host.runner.replay before.tools (after.executed.drop before.executed.length)).1

namespace World

/-- Nothing is executed, and the tools are left alone. -/
def Silent (before after : World σ) : Prop :=
  after.executed = before.executed ∧ after.tools = before.tools

theorem chains_silent : Chains (Silent : World σ → World σ → Prop) where
  refl _ := ⟨rfl, rfl⟩
  trans first second := ⟨second.1.trans first.1, second.2.trans first.2⟩

/-- One world leads to another by executions for which the tools put out what is listed. -/
def PutsOut (runner : Runner σ) (outputs : List CommandOutput) (before after : World σ) : Prop :=
  ∃ executed, after.executed = before.executed ++ executed ∧
    runner.replay before.tools executed = (outputs, after.tools)

variable {runner : Runner σ} {outputs others : List CommandOutput} {before between after : World σ}

theorem PutsOut.of_silent (silent : Silent before after) : PutsOut runner [] before after := by
  rcases silent with ⟨executed, tools⟩
  exact ⟨[], by simp [executed], by simp [Runner.replay, tools]⟩

theorem PutsOut.trans (first : PutsOut runner outputs before between)
    (second : PutsOut runner others between after) :
    PutsOut runner (outputs ++ others) before after := by
  rcases first with ⟨earlier, earlier_eq, earlier_put⟩
  rcases second with ⟨later, later_eq, later_put⟩
  refine ⟨earlier ++ later, by rw [later_eq, earlier_eq, List.append_assoc], ?_⟩
  rw [Runner.replay_append, earlier_put]
  simp only [later_put]

theorem PutsOut.outputs_eq {host : Host σ} (puts : PutsOut host.runner outputs before after) :
    host.outputs before after = outputs := by
  rcases puts with ⟨executed, executed_eq, replayed⟩
  rw [Host.outputs, executed_eq, List.drop_left, replayed]

end World

/-- From any world, after `earlier` was put out, a procedure comes to a value and to a list of all
that was put out as `outcome` says. -/
def Concludes (host : Host σ) (earlier : List CommandOutput) (procedure : Procedure σ α)
    (outcome : α → List CommandOutput → Prop) : Prop :=
  ∀ world, ∃ outputs, World.PutsOut host.runner outputs world (procedure.run world).2 ∧
    outcome (procedure.run world).1 (earlier ++ outputs)

namespace Concludes

open World (PutsOut)

variable {host : Host σ} {earlier : List CommandOutput}

theorem pure {outcome : α → List CommandOutput → Prop} {value : α} (holds : outcome value earlier) :
    Concludes host earlier (Pure.pure value : Procedure σ α) outcome := by
  intro world
  refine ⟨[], .of_silent (World.chains_silent.refl world), ?_⟩
  rw [List.append_nil]
  exact holds

theorem bind {first : Procedure σ α} {next : α → Procedure σ β}
    {middle : α → List CommandOutput → Prop} {outcome : β → List CommandOutput → Prop}
    (first_concludes : Concludes host earlier first middle)
    (next_concludes : ∀ value outputs, middle value outputs →
      Concludes host outputs (next value) outcome) :
    Concludes host earlier (first >>= next) outcome := by
  intro world
  rcases first_concludes world with ⟨outputs, puts, holds⟩
  rcases next_concludes _ _ holds (first.run world).2 with ⟨others, later_puts, later_holds⟩
  refine ⟨outputs ++ others, puts.trans later_puts, ?_⟩
  rw [← List.append_assoc]
  exact later_holds

theorem mono {procedure : Procedure σ α} {outcome wider : α → List CommandOutput → Prop}
    (concludes : Concludes host earlier procedure outcome)
    (le : ∀ value outputs, outcome value outputs → wider value outputs) :
    Concludes host earlier procedure wider := by
  intro world
  rcases concludes world with ⟨outputs, puts, holds⟩
  exact ⟨outputs, puts, le _ _ holds⟩

theorem map {procedure : Procedure σ α} {outcome : β → List CommandOutput → Prop} (f : α → β)
    (concludes : Concludes host earlier procedure fun value => outcome (f value)) :
    Concludes host earlier (f <$> procedure) outcome :=
  concludes

theorem of_silent {procedure : Procedure σ α} (silent : Respects World.Silent procedure) :
    Concludes host earlier procedure fun _ outputs => outputs = earlier := by
  intro world
  exact ⟨[], .of_silent (silent world), by simp⟩

/-! ### Commands -/

theorem execute (execution : Execution) :
    Concludes host earlier (host.execute execution) fun reply outputs =>
      outputs = earlier ++ [reply.output] := by
  intro world
  exact ⟨[_], ⟨[execution], rfl, rfl⟩, rfl⟩

theorem run (command : CommandLine) :
    Concludes host earlier (host.run command) fun output outputs =>
      outputs = earlier ++ [output] :=
  bind (execute _) fun _ _ put => pure put

/-- The last output of a chain is the one that it reports. -/
theorem tryEach {commands : List CommandLine} (some_command : commands ≠ []) :
    Concludes host earlier (host.tryEach commands) fun attempts outputs =>
      outputs.getLast? = some attempts.output := by
  induction commands generalizing earlier with
  | nil => exact absurd rfl some_command
  | cons command rest ih =>
      cases rest with
      | nil =>
          refine bind (run command) fun output outputs put => pure ?_
          simp [put]
      | cons next rest =>
          refine bind (run command) fun output outputs put => ?_
          split
          · refine pure ?_
            simp [put]
          · refine bind (ih (List.cons_ne_nil _ _)) fun later others last => ?_
            exact pure last

/-! ### Attempts -/

variable {outcome : Except Failure β → List CommandOutput → Prop}

theorem attempt_pure {value : β} (holds : outcome (.ok value) earlier) :
    Concludes host earlier (Pure.pure value : Attempt σ β).run outcome :=
  pure holds

theorem attempt_throw {failure : Failure} (holds : outcome (.error failure) earlier) :
    Concludes host earlier (throw failure : Attempt σ β).run outcome :=
  pure holds

theorem attempt_lift {procedure : Procedure σ β}
    (concludes : Concludes host earlier procedure fun value => outcome (.ok value)) :
    Concludes host earlier (liftM procedure : Attempt σ β).run outcome :=
  concludes

theorem attempt_map {attempt : Attempt σ α} (f : α → β)
    (concludes : Concludes host earlier attempt.run fun result => outcome (result.map f)) :
    Concludes host earlier (f <$> attempt).run outcome := by
  rw [ExceptT.run_map]
  exact map _ concludes

theorem attempt_bind {first : Attempt σ α} {next : α → Attempt σ β}
    {middle : Except Failure α → List CommandOutput → Prop}
    (first_concludes : Concludes host earlier first.run middle)
    (fails : ∀ failure outputs, middle (.error failure) outputs → outcome (.error failure) outputs)
    (next_concludes : ∀ value outputs, middle (.ok value) outputs →
      Concludes host outputs (next value).run outcome) :
    Concludes host earlier (first >>= next).run outcome := by
  rw [ExceptT.run_bind]
  refine bind first_concludes fun result outputs holds => ?_
  cases result with
  | ok value => exact next_concludes value outputs holds
  | error failure => exact attempt_throw (fails failure outputs holds)

/-- A procedure that cannot fail, as the first step of an attempt. -/
theorem attempt_lift_bind {procedure : Procedure σ α} {next : α → Attempt σ β}
    {middle : α → List CommandOutput → Prop} (concludes : Concludes host earlier procedure middle)
    (next_concludes : ∀ value outputs, middle value outputs →
      Concludes host outputs (next value).run outcome) :
    Concludes host earlier ((liftM procedure : Attempt σ α) >>= next).run outcome := by
  have lifted : Concludes host earlier (liftM procedure : Attempt σ α).run
      fun result outputs => ∃ value, result = .ok value ∧ middle value outputs :=
    attempt_lift (concludes.mono fun value outputs holds => ⟨value, rfl, holds⟩)
  refine attempt_bind lifted ?_ ?_
  · rintro failure outputs ⟨value, impossible, _⟩
    cases impossible
  · rintro value outputs ⟨_, same, holds⟩
    cases same
    exact next_concludes value outputs holds

theorem attempt_silent_bind {first : Attempt σ α} {next : α → Attempt σ β}
    (silent : Respects World.Silent first.run)
    (fails : ∀ failure, outcome (.error failure) earlier)
    (next_concludes : ∀ value, Concludes host earlier (next value).run outcome) :
    Concludes host earlier (first >>= next).run outcome := by
  refine attempt_bind (of_silent silent) ?_ ?_
  · rintro failure outputs rfl
    exact fails failure
  · rintro value outputs rfl
    exact next_concludes value

/-- A result that is known already, as the first step of an attempt. -/
theorem attempt_except_bind {result : Except Failure α} {next : α → Attempt σ β}
    (fails : ∀ failure, result = .error failure → outcome (.error failure) earlier)
    (next_concludes : ∀ value, result = .ok value →
      Concludes host earlier (next value).run outcome) :
    Concludes host earlier ((liftM result : Attempt σ α) >>= next).run outcome := by
  cases result with
  | ok value => exact next_concludes value rfl
  | error failure => exact attempt_throw (fails failure rfl)

end Concludes

end TapeAdmin
