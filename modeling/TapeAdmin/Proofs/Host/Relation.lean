import TapeAdmin.Host

/-!
# Relations between the world before and after

What a procedure may do to the world is a relation between the world before it and the world after
it. A relation that chains holds of a procedure as soon as it holds of the steps that the procedure
is made of, whatever their results and however they fail.
-/

namespace TapeAdmin

variable {σ α β : Type}

namespace Attempt

variable {first : Attempt σ α} {next : α → Attempt σ β} {world after : World σ}

/-- What is attempted after a success goes on from its value and its world. -/
theorem run_bind_of_ok {value : α} (done : first.run.run world = (.ok value, after)) :
    (first >>= next).run.run world = (next value).run.run after := by
  rw [ExceptT.run_bind, StateT.run_bind, done]
  rfl

/-- Nothing is attempted after a failure. -/
theorem run_bind_of_error {failure : Failure}
    (failed : first.run.run world = (.error failure, after)) :
    (first >>= next).run.run world = (.error failure, after) := by
  rw [ExceptT.run_bind, StateT.run_bind, failed]
  rfl

theorem run_bind_of_except_ok {result : Except Failure α} {value : α} (known : result = .ok value) :
    ((liftM result : Attempt σ α) >>= next).run.run world = (next value).run.run world := by
  subst known
  rfl

theorem run_bind_of_except_error {result : Except Failure α} {failure : Failure}
    (known : result = .error failure) :
    ((liftM result : Attempt σ α) >>= next).run.run world = (.error failure, world) := by
  subst known
  rfl

/-- A procedure that cannot fail hands on its result and its world. -/
theorem run_bind_lift (procedure : Procedure σ α) (next : α → Attempt σ β) (world : World σ) :
    ((liftM procedure : Attempt σ α) >>= next).run.run world =
      (next (procedure.run world).1).run.run (procedure.run world).2 :=
  rfl

end Attempt

/-- A relation that holds where nothing happens, and that holds of two steps if it holds of each. -/
structure World.Chains (relation : World σ → World σ → Prop) : Prop where
  refl : ∀ world, relation world world
  trans : ∀ {before between after}, relation before between → relation between after →
    relation before after

/-- A procedure that leads from any world to a related one. -/
def Respects (relation : World σ → World σ → Prop) (procedure : Procedure σ α) : Prop :=
  ∀ world, relation world (procedure.run world).2

namespace Respects

variable {relation : World σ → World σ → Prop} (chains : World.Chains relation)

include chains

theorem pure (value : α) : Respects relation (pure value : Procedure σ α) :=
  fun world => chains.refl world

theorem bind {first : Procedure σ α} {next : α → Procedure σ β}
    (first_respects : Respects relation first)
    (next_respects : ∀ value, Respects relation (next value)) :
    Respects relation (first >>= next) :=
  fun world => chains.trans (first_respects world) (next_respects _ _)

theorem attempt_pure (value : α) : Respects relation (Pure.pure value : Attempt σ α).run :=
  fun world => chains.refl world

theorem attempt_throw (failure : Failure) :
    Respects relation (throw failure : Attempt σ α).run :=
  fun world => chains.refl world

/-- A result that is a failure changes nothing. -/
theorem attempt_of_except (result : Except Failure α) :
    Respects relation (liftM result : Attempt σ α).run :=
  fun world => chains.refl world

theorem attempt_bind {first : Attempt σ α} {next : α → Attempt σ β}
    (first_respects : Respects relation first.run)
    (next_respects : ∀ value, Respects relation (next value).run) :
    Respects relation (first >>= next).run := by
  rw [ExceptT.run_bind]
  apply bind chains first_respects
  intro result
  cases result with
  | ok value => exact next_respects value
  | error failure => exact attempt_throw chains failure

omit chains

theorem map {procedure : Procedure σ α} (respects : Respects relation procedure) (f : α → β) :
    Respects relation (f <$> procedure) :=
  respects

theorem attempt_map {attempt : Attempt σ α} (respects : Respects relation attempt.run) (f : α → β) :
    Respects relation (f <$> attempt).run := by
  rw [ExceptT.run_map]
  exact map respects (Except.map f)

theorem attempt_lift {procedure : Procedure σ α} (respects : Respects relation procedure) :
    Respects relation (liftM procedure : Attempt σ α).run :=
  respects

/-- Respect of a relation is respect of every wider one. -/
theorem mono {wider : World σ → World σ → Prop} {procedure : Procedure σ α}
    (respects : Respects relation procedure)
    (le : ∀ {before after}, relation before after → wider before after) :
    Respects wider procedure :=
  fun world => le (respects world)

end Respects

end TapeAdmin
