import TapeAdmin.Mount.Control
import TapeAdmin.Proofs.Host.Sequence
import TapeAdmin.Proofs.Mount.History

/-!
# Mount tables over whole sessions

A session goes on with one mount table through any number of steps, among them steps that have
nothing to do with the table. A step is an event for the table only if it is a mount that worked, an
unmount that worked, or a direct change; what the table holds follows from these events alone.
-/

namespace TapeAdmin

variable {σ : Type}

namespace Host

variable (host : Host σ) (settings : MountSettings) (table : MountTable)

end Host

/-- One step of a session. -/
inductive SessionStep (σ : Type) where
  | mount (request : MountRequest)
  | unmount (mountPoint : FilePath)
  | insert (mountPoint : FilePath) (record : MountRecord)
  | erase (mountPoint : FilePath)
  /-- Anything that does not get the table into its hands. -/
  | other (procedure : Procedure σ Unit)

/-- A mount table in a world. -/
structure Session (σ : Type) where
  table : MountTable
  world : World σ

namespace SessionStep

variable (host : Host σ) (settings : MountSettings)

/-- The session after a step. -/
def perform (step : SessionStep σ) (session : Session σ) : Session σ :=
  match step with
  | .mount request =>
    let mounted := (host.mount settings session.table request).run session.world
    ⟨mounted.1.2, mounted.2⟩
  | .unmount mountPoint =>
    let unmounted := (host.unmount session.table mountPoint).run session.world
    ⟨unmounted.1.2, unmounted.2⟩
  | .insert mountPoint record => ⟨session.table.insert mountPoint record, session.world⟩
  | .erase mountPoint => ⟨session.table.erase mountPoint, session.world⟩
  | .other procedure => ⟨session.table, (procedure.run session.world).2⟩

variable {host settings}

end SessionStep

namespace Session

variable (host : Host σ) (settings : MountSettings)

/-- The session after a number of steps. -/
def run (steps : List (SessionStep σ)) (session : Session σ) : Session σ :=
  steps.foldl (fun session step => step.perform host settings session) session

end Session

end TapeAdmin
