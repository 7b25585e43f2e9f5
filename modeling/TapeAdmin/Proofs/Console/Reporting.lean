import TapeAdmin.Console.Program
import TapeAdmin.Proofs.Console.Destructive
import TapeAdmin.Proofs.Host.Replay
import TapeAdmin.Proofs.Host.Sequence

/-!
# Reported failures

A request that is carried out by commands fails if the last command that is executed for it fails,
and the program then ends with status 1. The one exception is the request for information about a
drive: it prints the failure, and ends as if the drive had answered.
-/

namespace TapeAdmin

variable {σ α : Type}

namespace Request

/-- The target of a request that is aimed at a device. -/
def target? : Request → Option Target
  | .select target | .info target | .operate target _ | .eject target | .mount target _ _
  | .format target _ _ _ _ | .diagnose target _ _ _ | .attributes target _ => some target
  | .list _ _ | .unmount _ | .mounts | .status => none

/-- A request that is carried out by commands, other than diagnostics. -/
def UsesCommands : Request → Prop
  | .info _ | .operate _ _ | .eject _ | .mount _ _ _ | .unmount _ | .mounts | .format _ _ _ _ _
  | .attributes _ _ => True
  | .list _ _ | .select _ | .diagnose _ _ _ _ | .status => False

/-- Whether a request is one for what a drive says about itself. -/
def isInfo : Request → Bool
  | .info _ => true
  | _ => false

end Request

namespace Host

/-- The world in which the device of a request is found, if it is aimed at one. -/
def found (host : Host σ) (configuration : Configuration) (request : Request) (world : World σ) :
    World σ :=
  match request.target? with
  | some target => ((host.resolveDevice configuration target).run.run world).2
  | none => world

/-- The last command that is executed for a request, once its device is found, fails. -/
def LastFails (host : Host σ) (configuration : Configuration) (request : Request)
    (world : World σ) : Prop :=
  let after := ((host.perform configuration request).run.run world).2
  ∃ output, (host.outputs (host.found configuration request world) after).getLast? = some output ∧
    output.succeeded = false

end Host

/-- The last output is the only last one, so whether it succeeded is known. -/
theorem succeeded_eq_of_last {output other : CommandOutput} {outputs : List CommandOutput}
    (last : outputs.getLast? = some output) (other_last : outputs.getLast? = some other) :
    other.succeeded = output.succeeded := by
  rw [last] at other_last
  cases other_last
  rfl

/-- A failure of the last command is a failure of the result. -/
def Reported (result : Except Failure α) (outputs : List CommandOutput) : Prop :=
  ∀ output, outputs.getLast? = some output → output.succeeded = false →
    ∃ failure, result = .error failure

theorem Reported.error {failure : Failure} {outputs : List CommandOutput} :
    Reported (.error failure : Except Failure α) outputs :=
  fun _ _ _ => ⟨failure, rfl⟩

/-- What is reported does not matter as long as nothing was put out. -/
theorem Reported.nil {result : Except Failure α} : Reported result [] := by
  intro output last
  cases last

theorem Reported.of_succeeded {result : Except Failure α} {outputs : List CommandOutput}
    {output : CommandOutput} (last : outputs.getLast? = some output)
    (succeeded : output.succeeded = true) : Reported result outputs := by
  intro other other_last failed
  rw [succeeded_eq_of_last last other_last, succeeded] at failed
  cases failed

/-- A success comes right after a command that succeeded. -/
def Confirmed (result : Except Failure α) (outputs : List CommandOutput) : Prop :=
  ∀ value, result = .ok value →
    ∃ output, outputs.getLast? = some output ∧ output.succeeded = true

theorem Confirmed.error {failure : Failure} {outputs : List CommandOutput} :
    Confirmed (.error failure : Except Failure α) outputs := by
  intro value impossible
  cases impossible

theorem Confirmed.map {β : Type} {result : Except Failure α} {outputs : List CommandOutput}
    (f : α → β) (confirmed : Confirmed result outputs) : Confirmed (result.map f) outputs := by
  cases result with
  | ok value => exact fun _ _ => confirmed value rfl
  | error failure => exact .error

namespace Concludes

open World (Silent)

variable {host : Host σ} {earlier : List CommandOutput}

theorem silent_printLines (lines : List String) :
    Respects Silent (Host.printLines lines : Attempt σ Unit).run :=
  .printLines (fun _ _ => ⟨rfl, rfl⟩) lines

/-- Lines that are printed on the way to a result. -/
theorem printLines_bind {lines : List String} {next : Unit → Attempt σ α}
    (next_concludes : Concludes host earlier (next ()).run Reported) :
    Concludes host earlier (Host.printLines lines >>= next).run Reported :=
  attempt_silent_bind (silent_printLines lines) (fun _ => .error) fun _ => next_concludes

theorem requireSuccess {action reason : String} {succeeded : Bool}
    (known : ∀ output, earlier.getLast? = some output → output.succeeded = succeeded) :
    Concludes host earlier (Host.requireSuccess action succeeded reason : Attempt σ Unit).run
      Reported := by
  cases succeeded with
  | false => exact attempt_throw .error
  | true =>
      apply attempt_pure
      intro output last failed
      rw [known output last] at failed
      cases failed

theorem requireSuccess_last {action reason : String} {output : CommandOutput}
    (last : earlier.getLast? = some output) :
    Concludes host earlier
      (Host.requireSuccess action output.succeeded reason : Attempt σ Unit).run Reported :=
  requireSuccess fun _ other_last => succeeded_eq_of_last last other_last

theorem requireDriveSuccess {action : String} {device : FilePath} {output : CommandOutput}
    (last : earlier.getLast? = some output) :
    Concludes host earlier (Host.requireDriveSuccess action device output : Attempt σ Unit).run
      Reported := by
  rw [Host.requireDriveSuccess]
  split
  · exact attempt_throw .error
  · exact requireSuccess_last last

theorem orFailure {output : CommandOutput} (command : CommandLine)
    (last : earlier.getLast? = some output) :
    Concludes host earlier (liftM (output.orFailure command) : Attempt σ CommandOutput).run
      Confirmed := by
  rw [CommandOutput.orFailure]
  split
  · next succeeded => exact attempt_pure fun _ _ => ⟨output, last, succeeded⟩
  · exact attempt_throw .error

theorem unmount (mountPoint : FilePath) :
    Concludes host earlier (host.unmount .empty mountPoint) fun result outputs =>
      outputs.getLast? = some result.1.output := by
  refine bind (tryEach (List.cons_ne_nil _ _)) fun attempts outputs last => ?_
  exact pure last

theorem discard_orFailure {output : CommandOutput} (command : CommandLine)
    (last : earlier.getLast? = some output) :
    Concludes host earlier
      (discard (liftM (output.orFailure command) : Attempt σ CommandOutput)).run Confirmed :=
  attempt_map _ ((orFailure command last).mono fun _ _ => Confirmed.map _)

/-- A command whose failure is the failure of the attempt. -/
theorem run_orFailure (command : CommandLine) (f : CommandOutput → α) :
    Concludes host earlier (do
      let output ← host.run command
      let output ← output.orFailure command
      Pure.pure (f output) : Attempt σ α).run Confirmed := by
  refine attempt_lift_bind (run command) fun output outputs put => ?_
  have last : outputs.getLast? = some output := by simp [put]
  refine attempt_bind (orFailure command last) (fun _ _ _ => .error) ?_
  intro value others confirmed
  exact attempt_pure fun _ _ => confirmed value rfl

/-- What is printed after a success does not change it. -/
theorem printLines_of_confirmed {first : Attempt σ α} {lines : α → List String}
    (confirmed : Concludes host earlier first.run Confirmed) :
    Concludes host earlier (first >>= fun value => Host.printLines (lines value)).run
      Reported := by
  refine attempt_bind confirmed (fun _ _ _ => .error) fun value outputs ended => ?_
  refine mono (of_silent (silent_printLines _)) ?_
  rintro result others rfl
  rcases ended value rfl with ⟨output, last, succeeded⟩
  exact .of_succeeded last succeeded

/-! ### Requests whose device is found -/

theorem eject (device : FilePath) :
    Concludes host earlier (do
      let attempts ← host.eject device
      Host.printLines (attempts.summary "Eject")
      Host.requireDriveSuccess "eject" device attempts.output : Attempt σ Unit).run Reported := by
  refine attempt_lift_bind (tryEach (List.cons_ne_nil _ _)) fun attempts outputs last => ?_
  exact printLines_bind (requireDriveSuccess last)

theorem operate (device : FilePath) (operation : TapeOperation) :
    Concludes host earlier (host.operate device operation) fun output outputs =>
      outputs.getLast? = some output := by
  rw [Host.operate]
  split
  · exact map _ (tryEach (List.cons_ne_nil _ _))
  · exact (run _).mono fun output outputs put => by simp [put]

/-- Without a mount point no command is executed at all. -/
theorem prepareMount (settings : MountSettings) (request : MountRequest) :
    Concludes host [] (host.prepareMount settings request) fun result outputs =>
      ∀ error, result = .error error → outputs = [] := by
  have creates : Respects Silent (Host.createMountPoint request.mountPoint : Procedure σ _) :=
    fun _ => ⟨rfl, rfl⟩
  rw [Host.prepareMount]
  refine bind (of_silent creates) fun created outputs none_put => ?_
  subst none_put
  split
  · exact pure fun _ _ => rfl
  · split
    · have rewinds : Concludes host [] (discard (host.operate request.device .rewind))
          fun _ _ => True :=
        map _ ((operate _ _).mono fun _ _ _ => trivial)
      exact bind rewinds fun _ outputs _ => pure fun _ impossible => nomatch impossible
    · exact pure fun _ impossible => nomatch impossible

theorem tryMount (table : MountTable) (request : MountRequest) :
    Concludes host earlier (host.tryMount table request) fun result outputs =>
      ∀ output, outputs.getLast? = some output → output.succeeded = result.1.succeeded := by
  refine bind (tryEach (List.cons_ne_nil _ _)) fun attempts outputs last => ?_
  have same : ∀ output, outputs.getLast? = some output → output.succeeded = attempts.succeeded :=
    fun _ output_last => succeeded_eq_of_last last output_last
  split <;> exact pure same

/-- How the rewinding ends does not count: a mount command always comes after it. -/
theorem mount (settings : MountSettings) (request : MountRequest) :
    Concludes host [] (host.mount settings .empty request) fun result outputs =>
      ∀ output, outputs.getLast? = some output → output.succeeded = result.1.succeeded := by
  refine bind (prepareMount settings request) fun prepared outputs none_put => ?_
  split
  · next error =>
      refine pure fun output last => ?_
      rw [none_put error rfl] at last
      cases last
  · exact tryMount .empty request

theorem format (settings : FormatSettings) (request : FormatRequest) :
    Concludes host earlier (host.format settings request).run fun result outputs =>
      ∀ output, result = .ok output → outputs.getLast? = some output := by
  have asks : Concludes host earlier (host.withVendorBlockSize settings request)
      fun _ _ => True := by
    rw [Host.withVendorBlockSize]
    split
    · exact bind (run _) fun _ _ _ => pure trivial
    · exact pure trivial
  rw [Host.format]
  refine attempt_except_bind (fun failure _ output impossible => ?_) fun _ _ => ?_
  · cases impossible
  · refine attempt_lift_bind asks fun request outputs _ => ?_
    refine attempt_lift ((run _).mono ?_)
    rintro output others rfl other same
    cases same
    simp

theorem formatIfAgreed (settings : FormatSettings) (request : FormatRequest) (agreed : Bool) :
    Concludes host [] (host.formatIfAgreed settings request agreed).run Reported := by
  cases agreed with
  | false =>
      refine mono (of_silent (silent_printLines _)) ?_
      rintro result outputs rfl
      exact .nil
  | true =>
      refine attempt_bind (format settings request) (fun _ _ _ => .error) ?_
      intro output outputs last
      exact printLines_bind (requireSuccess_last (last output rfl))

theorem readAttributes (device : FilePath) (id : Option UInt16) (partition : UInt8) :
    Concludes host earlier (host.readAttributes device id partition).run Confirmed := by
  refine attempt_lift_bind (execute _) fun reply outputs put => ?_
  have last : outputs.getLast? = some reply.output := by simp [put]
  refine attempt_bind (discard_orFailure _ last) (fun _ _ _ => .error) fun _ others confirmed => ?_
  split
  · exact attempt_throw .error
  · exact attempt_pure fun _ _ => confirmed () rfl

theorem writeAttribute (device : FilePath) (write : AttributeWrite) :
    Concludes host earlier (host.writeAttribute device write).run Confirmed := by
  rw [Host.writeAttribute]
  split
  · exact attempt_throw .error
  · refine attempt_lift_bind (execute _) fun reply outputs put => ?_
    have last : outputs.getLast? = some reply.output := by simp [put]
    exact discard_orFailure _ last

end Concludes

namespace Host

variable (host : Host σ) (configuration : Configuration)

theorem reported_of_concludes {attempt : Attempt σ Unit}
    (concludes : Concludes host [] attempt.run Reported) (world : World σ) :
    Reported (attempt.run.run world).1 (host.outputs world (attempt.run.run world).2) := by
  rcases concludes world with ⟨outputs, puts, reported⟩
  rw [puts.outputs_eq]
  exact reported

/-- What is done with a device that is found reports the failure of its last command. -/
theorem reported_of_resolved {target : Target} {next : FilePath → Attempt σ Unit}
    (concludes : ∀ device, Concludes host [] (next device).run Reported) (world : World σ) :
    let ended := (host.resolveDevice configuration target >>= next).run.run world
    Reported ended.1
      (host.outputs ((host.resolveDevice configuration target).run.run world).2 ended.2) := by
  dsimp only
  rcases resolved : (host.resolveDevice configuration target).run.run world with ⟨result, reached⟩
  cases result with
  | error failure =>
      rw [Attempt.run_bind_of_error resolved]
      exact .error
  | ok device =>
      rw [Attempt.run_bind_of_ok resolved]
      exact reported_of_concludes host (concludes device) reached

theorem silent_confirm (question : String) :
    Respects World.Silent (confirm question : Attempt σ Bool).run := by
  refine .attempt_bind World.chains_silent (.attempt_lift fun _ => ⟨rfl, rfl⟩) fun _ => ?_
  refine .attempt_bind World.chains_silent (fun world => ?_) fun answer => ?_
  · rw [readLine_run]
    exact ⟨rfl, rfl⟩
  · exact .attempt_pure World.chains_silent _

theorem silent_decideToFormat (assumeYes : Bool) :
    Respects World.Silent (decideToFormat assumeYes : Attempt σ Bool).run := by
  cases assumeYes with
  | true => exact .attempt_pure World.chains_silent true
  | false => exact silent_confirm formatQuestion

/-- The requests that are carried out by commands report the failure of the last one, with the
exception of the request for information. -/
theorem reported_perform {request : Request} (covered : request.UsesCommands)
    (other : request.isInfo = false) (world : World σ) :
    let ended := (host.perform configuration request).run.run world
    Reported ended.1 (host.outputs (host.found configuration request world) ended.2) := by
  cases request with
  | list detailed json => cases covered
  | select target => cases covered
  | diagnose target suite allowWrite output => cases covered
  | status => cases covered
  | info target => cases other
  | operate target operation =>
      by_cases ejects : operation = .eject
      · subst ejects
        exact reported_of_resolved host configuration Concludes.eject world
      · have carried_out : host.perform configuration (.operate target operation) = _ :=
          if_neg ejects
        rw [carried_out]
        refine reported_of_resolved host configuration (fun device => ?_) world
        refine .attempt_lift_bind (.operate device operation) fun output outputs last => ?_
        exact .printLines_bind (.requireDriveSuccess last)
  | eject target => exact reported_of_resolved host configuration Concludes.eject world
  | mount target mountPoint options =>
      refine reported_of_resolved host configuration (fun device => ?_) world
      refine .printLines_bind (.attempt_lift_bind (.mount _ _) fun result outputs known => ?_)
      refine .printLines_bind ?_
      split
      · exact .printLines_bind (.requireSuccess known)
      · exact .requireSuccess known
  | unmount mountPoint =>
      refine reported_of_concludes host ?_ world
      refine .attempt_lift_bind (.unmount mountPoint) fun result outputs last => ?_
      exact .printLines_bind (.requireSuccess_last last)
  | mounts =>
      have lists : Concludes host [] host.listMounts.run Confirmed :=
        .run_orFailure listMountsCommand fun output => ListedMount.parse output.stdout
      exact reported_of_concludes host (.printLines_of_confirmed lists) world
  | format target label force blockSize assumeYes =>
      refine reported_of_resolved host configuration (fun device => ?_) world
      refine .attempt_except_bind (fun _ _ => .error) fun _ _ => ?_
      refine .printLines_bind ?_
      refine .attempt_silent_bind (silent_decideToFormat assumeYes) (fun _ => .error) ?_
      intro agreed
      exact .formatIfAgreed _ _ agreed
  | attributes target action =>
      cases action with
      | summary =>
          have summarises (device : FilePath) :
              Concludes host [] (host.cartridgeSummary device).run Confirmed :=
            .run_orFailure (summaryCommand device) CommandOutput.stdout
          exact reported_of_resolved host configuration
            (fun device => .printLines_of_confirmed (summarises device)) world
      | read id partition =>
          exact reported_of_resolved host configuration
            (fun device => .printLines_of_confirmed (.readAttributes device id partition)) world
      | write id value partition =>
          exact reported_of_resolved host configuration
            (fun device => .printLines_of_confirmed (.writeAttribute device _)) world

/-- The request for information fails if no device is found for it, and only then. -/
theorem performInfo_result (target : Target) (world : World σ) :
    ((host.performInfo configuration target).run.run world).1 =
      ((host.resolveDevice configuration target).run.run world).1.map fun _ => () := by
  rw [performInfo]
  rcases resolved : (host.resolveDevice configuration target).run.run world with ⟨result, reached⟩
  cases result with
  | error failure =>
      rw [Attempt.run_bind_of_error resolved]
      rfl
  | ok device =>
      rw [Attempt.run_bind_of_ok resolved]
      rfl

/-- A command is executed for information only if a device is found. -/
theorem ok_of_lastFails_info {target : Target} {world : World σ}
    (last_fails : host.LastFails configuration (.info target) world) :
    ((host.performInfo configuration target).run.run world).1 = .ok () := by
  rw [performInfo_result]
  rcases last_fails with ⟨output, last, _⟩
  rcases resolved : (host.resolveDevice configuration target).run.run world with ⟨result, reached⟩
  cases result with
  | ok device => rfl
  | error failure =>
      have stopped : (host.perform configuration (.info target)).run.run world =
          (.error failure, reached) :=
        Attempt.run_bind_of_error resolved
      simp [stopped, found, Request.target?, resolved, outputs, Runner.replay] at last

theorem runProgram_run {own : FilePath} {commandLine : List String}
    {invocation : Invocation} {configuration : Configuration} {world : World σ}
    (accepted : Invocation.read commandLine = .ok invocation)
    (loaded : Configuration.load world.files invocation.configuration own = .ok configuration) :
    ((host.runProgram own commandLine).run world).1 =
      match (((host.configured configuration).perform configuration
        invocation.request).run.run world).1 with
      | .ok () => .done
      | .error failure => .failed invocation.logJson failure := by
  rw [runProgram, accepted]
  simp only [StateT.run_bind, StateT.run_get, pure_bind, loaded]
  rcases (((host.configured configuration).perform configuration
    invocation.request).run.run world) with ⟨result, after⟩
  cases result with
  | ok value => rfl
  | error failure => rfl

/-- If the last command that is executed for a request fails, then the request fails and the program
ends with status 1, unless the request is one for information: that one goes well, and the program
ends with status 0. -/
theorem fails_iff_of_lastFails {request : Request} (covered : request.UsesCommands)
    {world : World σ} (last_fails : host.LastFails configuration request world) :
    ((∃ failure, ((host.perform configuration request).run.run world).1 = .error failure) ↔
      request.isInfo = false) ∧
    ∀ (outer : Host σ) (own : FilePath) (commandLine : List String) (invocation : Invocation),
      Invocation.read commandLine = .ok invocation →
      Configuration.load world.files invocation.configuration own = .ok configuration →
      invocation.request = request → outer.configured configuration = host →
      ((outer.runProgram own commandLine).run world).1.exitStatus =
        if request.isInfo then 0 else 1 := by
  have ended : (∃ failure,
      ((host.perform configuration request).run.run world).1 = .error failure) ∧
        request.isInfo = false ∨
      ((host.perform configuration request).run.run world).1 = .ok () ∧
        request.isInfo = true := by
    cases other : request.isInfo with
    | false =>
        rcases last_fails with ⟨output, last, failed⟩
        exact .inl ⟨reported_perform host configuration covered other world output last failed, rfl⟩
    | true =>
        cases request with
        | info target => exact .inr ⟨ok_of_lastFails_info host configuration last_fails, rfl⟩
        | _ => cases other
  constructor
  · rcases ended with ⟨fails, other⟩ | ⟨succeeds, info⟩
    · exact ⟨fun _ => other, fun _ => fails⟩
    · simp [succeeds, info]
  · intro outer own commandLine invocation accepted loaded same_request same_host
    rw [runProgram_run outer accepted loaded, same_host, same_request]
    rcases ended with ⟨⟨failure, fails⟩, other⟩ | ⟨succeeds, info⟩
    · rw [fails, other]
      rfl
    · rw [succeeds, info]
      rfl

end Host

theorem FileSystem.isFile_of_no_places (directory : List String) (path : FilePath) :
    (⟨[], directory⟩ : FileSystem).isFile path = false := by
  let system : FileSystem := ⟨[], directory⟩
  have only_root (place : List String) :
      system.entry? place = none ∨ system.entry? place = some .directory := by
    cases place with
    | nil => exact .inr rfl
    | cons name names => exact .inl rfl
  change system.isFile path = false
  rw [isFile, find]
  cases checkPath path with
  | error error => rfl
  | ok =>
      cases system.follow (system.start path) (closedSegments path) with
      | error error => rfl
      | ok place => rcases only_root place with found | found <;> simp [found, bind, Except.bind]

theorem Configuration.load_start (tools : σ) (own : FilePath) :
    Configuration.load (World.start tools).files none own = .ok {} := by
  have missing : (World.start tools).files.isFile own = false :=
    FileSystem.isFile_of_no_places [] own
  rw [load, missing]
  rfl

namespace Host

/-- For a drive that does not answer, a request for its status ends with status 1, and a request for
information goes well. -/
theorem fails_iff_of_lastFails_status :
    let outer := Host.scanning ⟨⟨"/dev"⟩, .error .notFound, fun _ => .accessible⟩ .told
    let host := outer.configured {}
    let drive : Target := { device := some ⟨"/dev/nst0"⟩ }
    let commandLine := ["ltfsadm", "mt", "--device", "/dev/nst0", "status"]
    ((outer.runProgram ⟨"/root/.config/ltfsadm/config.toml"⟩ commandLine).run
      (.start [false])).1.exitStatus = 1 ∧
    ¬∃ failure,
      ((host.perform {} (.info drive)).run.run (.start [false])).1 = .error failure := by
  intro outer host drive commandLine
  have status_fails : host.LastFails {} (.operate drive .status) (.start [false]) :=
    ⟨_, rfl, rfl⟩
  have info_fails : host.LastFails {} (.info drive) (.start [false]) :=
    ⟨_, rfl, rfl⟩
  have status_covered : (Request.operate drive .status).UsesCommands := trivial
  have info_covered : (Request.info drive).UsesCommands := trivial
  constructor
  · exact (fails_iff_of_lastFails host {} status_covered status_fails).2 outer _ commandLine _ rfl
      (Configuration.load_start _ _) rfl rfl
  · intro fails
    cases (fails_iff_of_lastFails host {} info_covered info_fails).1.mp fails

/-- A drive does not answer the one command of a request for information, and the program ends with
status 0 all the same. -/
theorem exitStatus_info_of_failed :
    let outer := Host.scanning ⟨⟨"/dev"⟩, .error .notFound, fun _ => .accessible⟩ .told
    let request : Request := .info { device := some ⟨"/dev/nst0"⟩ }
    let commandLine := ["ltfsadm", "info", "--device", "/dev/nst0"]
    (∃ invocation, Invocation.read commandLine = .ok invocation ∧ invocation.request = request) ∧
    request.UsesCommands ∧ (outer.configured {}).LastFails {} request (.start [false]) ∧
    (((outer.configured {}).perform {} request).run.run (.start [false])).1 = .ok () ∧
    ((outer.runProgram ⟨"/root/.config/ltfsadm/config.toml"⟩ commandLine).run
      (.start [false])).1.exitStatus = 0 := by
  intro outer request commandLine
  have accepted : Invocation.read commandLine = .ok { request := request } := rfl
  refine ⟨⟨_, accepted, rfl⟩, trivial, ⟨_, rfl, rfl⟩, rfl, ?_⟩
  rw [runProgram_run outer accepted (Configuration.load_start _ _)]
  rfl

end Host

end TapeAdmin
