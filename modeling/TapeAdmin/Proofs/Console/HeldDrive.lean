import TapeAdmin.Proofs.Command.Chain
import TapeAdmin.Proofs.Console.Destructive
import TapeAdmin.Proofs.Text.Search
import TapeAdmin.Proofs.Text.Trimming

/-!
# Drives that are held

A tape operation, also an ejection, tells a drive that another process holds apart from one that
does not work. What it reports follows from the output of the last command that is executed on the
drive and from nothing before it. No other request ever reports a drive as held.
-/

namespace TapeAdmin

variable {σ α β : Type}

/-- A failure other than that the device is held. -/
def Failure.IsOther (failure : Failure) : Prop :=
  ∀ device, failure ≠ .deviceBusy device

/-- An attempt that never fails because the device is held. -/
def NeverBusy (attempt : Attempt σ α) : Prop :=
  ∀ world failure, (attempt.run.run world).1 = .error failure → failure.IsOther

namespace NeverBusy

theorem pure (value : α) : NeverBusy (Pure.pure value : Attempt σ α) := by
  intro world failure impossible
  cases impossible

theorem throw {failure : Failure} (other : failure.IsOther) :
    NeverBusy (throw failure : Attempt σ α) := by
  intro world failure same
  cases same
  exact other

theorem lift (procedure : Procedure σ α) : NeverBusy (liftM procedure : Attempt σ α) := by
  intro world failure impossible
  cases impossible

theorem bind {first : Attempt σ α} {next : α → Attempt σ β} (first_never : NeverBusy first)
    (next_never : ∀ value, NeverBusy (next value)) : NeverBusy (first >>= next) := by
  intro world failure failed
  rcases done : first.run.run world with ⟨result, between⟩
  cases result with
  | ok value =>
      rw [Attempt.run_bind_of_ok done] at failed
      exact next_never value between failure failed
  | error reason =>
      rw [Attempt.run_bind_of_error done] at failed
      cases failed
      exact first_never world failure (congrArg Prod.fst done)

theorem of_except {result : Except Failure α}
    (known : ∀ failure, result = .error failure → failure.IsOther) :
    NeverBusy (liftM result : Attempt σ α) := by
  cases result with
  | ok value => exact pure value
  | error failure => exact throw (known failure rfl)

theorem map {attempt : Attempt σ α} (never : NeverBusy attempt) (f : α → β) :
    NeverBusy (f <$> attempt) := by
  rw [map_eq_pure_bind]
  exact bind never fun _ => pure _

theorem printLines (lines : List String) :
    NeverBusy (Host.printLines lines : Attempt σ Unit) :=
  lift _

theorem requireSuccess (action reason : String) (succeeded : Bool) :
    NeverBusy (Host.requireSuccess action succeeded reason : Attempt σ Unit) := by
  cases succeeded with
  | true => exact pure ()
  | false => exact throw (by rintro _ ⟨⟩)

theorem orFailure (output : CommandOutput) (command : CommandLine) :
    NeverBusy (liftM (output.orFailure command) : Attempt σ CommandOutput) := by
  rw [CommandOutput.orFailure]
  split
  · exact pure output
  · exact throw (by rintro _ ⟨⟩)

variable (host : Host σ) (configuration : Configuration)

theorem resolveDevice (target : Target) : NeverBusy (host.resolveDevice configuration target) := by
  rw [Host.resolveDevice]
  split
  · exact pure _
  · refine bind (lift _) fun inventory => bind (printLines _) fun _ => ?_
    split
    · exact throw (by rintro _ ⟨⟩)
    · split
      · exact throw (by rintro _ ⟨⟩)
      · exact pure _

theorem performList (detailed json : Bool) :
    NeverBusy (host.performList configuration detailed json) := by
  refine bind (lift _) fun inventory => ?_
  split
  · exact bind (printLines _) fun _ => printLines _
  · exact printLines _

theorem performSelect (target : Target) :
    NeverBusy (host.performSelect configuration target) :=
  bind (resolveDevice host configuration target) fun _ => printLines _

/-- A drive that does not answer is told so, whatever the reason. -/
theorem performInfo (target : Target) : NeverBusy (host.performInfo configuration target) :=
  bind (resolveDevice host configuration target) fun _ =>
    bind (printLines _) fun _ => bind (lift _) fun _ => printLines _

theorem performMount (target : Target) (mountPoint : Option FilePath) (options : List String) :
    NeverBusy (host.performMount configuration target mountPoint options) := by
  refine bind (resolveDevice host configuration target) fun device => ?_
  refine bind (printLines _) fun _ => bind (lift _) fun result => bind (printLines _) fun _ => ?_
  split
  · exact bind (printLines _) fun _ => requireSuccess _ _ _
  · exact requireSuccess _ _ _

theorem performUnmount (mountPoint : FilePath) : NeverBusy (host.performUnmount mountPoint) :=
  bind (lift _) fun _ => bind (printLines _) fun _ => requireSuccess _ _ _

theorem listMounts : NeverBusy host.listMounts :=
  bind (lift _) fun output => bind (orFailure output _) fun _ => pure _

theorem performMounts : NeverBusy host.performMounts :=
  bind (listMounts host) fun _ => printLines _

theorem validate (request : FormatRequest) :
    NeverBusy (liftM request.validate : Attempt σ Unit) := by
  refine of_except fun failure refused => ?_
  rw [FormatRequest.validate] at refused
  split at refused
  · cases refused
  · split at refused
    · cases refused
    · cases refused
      rintro _ ⟨⟩

/-- A question can fail only as a system error. -/
theorem decideToFormat (assumeYes : Bool) :
    NeverBusy (Host.decideToFormat assumeYes : Attempt σ Bool) := by
  rw [Host.decideToFormat]
  split
  · exact pure _
  · refine bind (lift _) fun _ => bind ?_ fun _ => pure _
    intro world failure failed
    rw [Host.readLine_run] at failed
    split at failed
    · cases failed
    · cases failed
      rintro _ ⟨⟩

theorem formatIfAgreed (settings : FormatSettings) (request : FormatRequest) (agreed : Bool) :
    NeverBusy (host.formatIfAgreed settings request agreed) := by
  rw [Host.formatIfAgreed]
  split
  · refine bind (bind (validate request) fun _ => bind (lift _) fun _ => lift _) fun output => ?_
    exact bind (printLines _) fun _ => requireSuccess _ _ _
  · exact printLines _

theorem performFormat (target : Target) (label : Option String) (force : Bool)
    (blockSize : Option Nat) (assumeYes : Bool) :
    NeverBusy (host.performFormat configuration target label force blockSize assumeYes) := by
  refine bind (resolveDevice host configuration target) fun device => ?_
  exact bind (validate _) fun _ => bind (printLines _) fun _ => bind (decideToFormat _) fun _ =>
    formatIfAgreed host _ _ _

theorem diagnose (settings : DiagnosticSettings) (kind : SuiteKind) (device : FilePath)
    (allowWrite : Bool) : NeverBusy (host.diagnose settings kind device allowWrite) := by
  rw [Host.diagnose]
  split
  · exact bind (throw (by rintro _ ⟨⟩)) fun _ => lift _
  · exact lift _

theorem saveReports (path : FilePath) (reports : List SuiteReport) :
    NeverBusy (TapeAdmin.saveReports path reports : Attempt σ Unit) := by
  refine bind (lift get) fun world => ?_
  split
  · exact lift (set _)
  · exact throw (by rintro _ ⟨⟩)

theorem keepReports (reports : List SuiteReport) (output : Option FilePath) :
    NeverBusy (Host.keepReports reports output : Attempt σ Unit) := by
  cases output with
  | none => exact printLines _
  | some path => exact bind (saveReports path reports) fun _ => printLines _

theorem performDiagnose (target : Target) (suite : SuiteKind) (allowWrite : Bool)
    (output : Option FilePath) :
    NeverBusy (host.performDiagnose configuration target suite allowWrite output) := by
  refine bind (resolveDevice host configuration target) fun device => ?_
  refine bind (diagnose host _ _ _ _) fun reports => bind (printLines _) fun _ => ?_
  exact bind (keepReports _ _) fun _ => requireSuccess _ _ _

theorem cartridgeSummary (device : FilePath) : NeverBusy (host.cartridgeSummary device) :=
  bind (lift _) fun output => bind (orFailure output _) fun _ => pure _

theorem readAttributes (device : FilePath) (id : Option UInt16) (partition : UInt8) :
    NeverBusy (host.readAttributes device id partition) := by
  refine bind (lift _) fun reply => bind (map (orFailure _ _) _) fun _ => ?_
  split
  · exact throw (by rintro _ ⟨⟩)
  · exact pure _

theorem writeAttribute (device : FilePath) (write : AttributeWrite) :
    NeverBusy (host.writeAttribute device write) := by
  rw [Host.writeAttribute]
  split
  · exact throw (by rintro _ ⟨⟩)
  · exact bind (lift _) fun reply => map (orFailure _ _) _

theorem performAttributes (target : Target) (action : AttributeRequest) :
    NeverBusy (host.performAttributes configuration target action) := by
  refine bind (resolveDevice host configuration target) fun device => ?_
  cases action with
  | summary => exact bind (cartridgeSummary host device) fun _ => printLines _
  | read id partition => exact bind (readAttributes host device id partition) fun _ => printLines _
  | write id value partition => exact bind (writeAttribute host device _) fun _ => printLines _

theorem performStatus : NeverBusy (host.performStatus configuration) :=
  bind (lift _) fun _ => lift _

end NeverBusy

namespace Request

/-- The operation that a request asks of a drive, if it asks for one, with the target. -/
def operation? : Request → Option (Target × TapeOperation)
  | .operate target operation => some (target, operation)
  | .eject target => some (target, .eject)
  | _ => none

end Request

/-- No request but one for an operation of a drive fails because the device is held. -/
theorem neverBusy_perform (host : Host σ) (configuration : Configuration) {request : Request}
    (other : request.operation? = none) : NeverBusy (host.perform configuration request) := by
  cases request with
  | list detailed json => exact .performList host configuration detailed json
  | select target => exact .performSelect host configuration target
  | info target => exact .performInfo host configuration target
  | operate target operation => cases other
  | eject target => cases other
  | mount target mountPoint options => exact .performMount host configuration target _ _
  | unmount mountPoint => exact .performUnmount host mountPoint
  | mounts => exact .performMounts host
  | format target label force blockSize assumeYes =>
      exact .performFormat host configuration target _ _ _ _
  | diagnose target suite allowWrite output =>
      exact .performDiagnose host configuration target _ _ _
  | attributes target action => exact .performAttributes host configuration target action
  | status => exact .performStatus host configuration

/-! ### Operations of a drive -/

/-- What an operation on a device results in, by the output of the last command for it: a failure
says that the device is held exactly if the error text does, and quotes the error text otherwise. -/
structure Verdict (action : String) (device : FilePath) (output : CommandOutput)
    (result : Except Failure Unit) : Prop where
  ok_iff : result = .ok () ↔ output.succeeded = true
  busy_iff : result = .error (.deviceBusy device) ↔
    output.succeeded = false ∧ "Device or resource busy".toList <:+: output.stderr.toList
  quotes : output.succeeded = false →
    ¬"Device or resource busy".toList <:+: output.stderr.toList →
    ∃ reason, Text.TrimsTo output.stderr.toList reason ∧
      result = .error (.commandFailed action
        (if reason = [] then "Unknown error occurred" else String.ofList reason))

/-- A verdict names no other device. -/
theorem Verdict.device_eq {action : String} {device held : FilePath} {output : CommandOutput}
    {result : Except Failure Unit} (verdict : Verdict action device output result)
    (busy : result = .error (.deviceBusy held)) : held = device := by
  subst busy
  cases succeeded : output.succeeded with
  | true => cases verdict.ok_iff.mpr succeeded
  | false =>
      by_cases named : "Device or resource busy".toList <:+: output.stderr.toList
      · cases verdict.busy_iff.mpr ⟨succeeded, named⟩
        rfl
      · rcases verdict.quotes succeeded named with ⟨reason, _, quoted⟩
        cases quoted

theorem CommandOutput.reportsBusy_iff {output : CommandOutput} :
    output.reportsBusy = true ↔
      output.succeeded = false ∧ "Device or resource busy".toList <:+: output.stderr.toList := by
  rw [reportsBusy, Bool.and_eq_true, Bool.not_eq_true', Text.contains, Text.containsWord_iff,
    busyWords]

theorem CommandOutput.errorMessage_eq (output : CommandOutput) :
    output.errorMessage =
      if (Text.trim output.stderr).toList = [] then "Unknown error occurred"
      else String.ofList (Text.trim output.stderr).toList := by
  rw [errorMessage, String.ofList_toList]
  simp only [String.isEmpty_iff, String.toList_eq_nil_iff]

/-- Tools that fail with one error text after another, and succeed once there are no more. -/
def Runner.complaining : Runner (List String) where
  answer
    | [], _ => (⟨{ succeeded := true }, []⟩, [])
    | text :: texts, _ => (⟨{ succeeded := false, stderr := text }, []⟩, texts)

namespace Host

theorem requireDriveSuccess_run (action : String) (device : FilePath) (output : CommandOutput)
    (world : World σ) :
    ∃ result, (requireDriveSuccess action device output : Attempt σ Unit).run.run world =
      (result, world) ∧ Verdict action device output result := by
  by_cases busy : output.reportsBusy = true
  · rcases CommandOutput.reportsBusy_iff.mp busy with ⟨failed, named⟩
    rw [requireDriveSuccess, if_pos busy]
    have held : output.succeeded = false ∧ _ := ⟨failed, named⟩
    exact ⟨_, rfl, by simp [failed], iff_of_true rfl held, fun _ silent => absurd named silent⟩
  · have not_busy := CommandOutput.reportsBusy_iff.not.mp busy
    rw [requireDriveSuccess, if_neg busy, requireSuccess]
    cases succeeded : output.succeeded with
    | true => exact ⟨_, rfl, by simp [succeeded], by simp [succeeded], by simp [succeeded]⟩
    | false =>
        refine ⟨_, rfl, by simp [succeeded], ?_, fun _ _ => ?_⟩
        · constructor
          · intro impossible
            cases impossible
          · exact fun named => absurd named not_busy
        · exact ⟨_, Text.trimsTo_trim output.stderr, by rw [output.errorMessage_eq]⟩

/-- The output of the last command that an operation executes, and the world behind it: ejecting
goes on to take the drive offline if the first command for it fails. -/
def lastOf (host : Host σ) (device : FilePath) (operation : TapeOperation) (world : World σ) :
    CommandOutput × World σ :=
  let first := (host.run (operation.command device)).run world
  if operation = .eject ∧ first.1.succeeded = false then
    (host.run (TapeOperation.offline.command device)).run first.2
  else first

/-- What a failure calls the operation that failed. -/
def actionOf (operation : TapeOperation) (device : FilePath) : String :=
  if operation = .eject then "eject" else (operation.command device).render

/-- What becomes of an operation on a device: the result is a verdict on the output of the last
command, and nothing is executed behind that command. -/
structure Decides (host : Host σ) (device : FilePath) (operation : TapeOperation)
    (reached : World σ) (ended : Except Failure Unit × World σ) : Prop where
  verdict : Verdict (actionOf operation device) device
    (host.lastOf device operation reached).1 ended.1
  executed : ended.2.executed = (host.lastOf device operation reached).2.executed
  tools : ended.2.tools = (host.lastOf device operation reached).2.tools

variable {host : Host σ} {configuration : Configuration} {target : Target} {device : FilePath}
  {world reached : World σ}

/-- Lines that are printed between the last command and the verdict change neither. -/
theorem decides_of_last {operation : TapeOperation} {output : CommandOutput} {after : World σ}
    (last : host.lastOf device operation reached = (output, after)) (lines : List String) :
    host.Decides device operation reached
      ((printLines lines >>= fun _ => requireDriveSuccess (actionOf operation device) device
        output : Attempt σ Unit).run.run after) := by
  have printing : (printLines lines : Attempt σ Unit).run.run after = (.ok (), { after with
      printed := after.printed ++ String.join (lines.map (· ++ "\n")) }) := rfl
  rcases requireDriveSuccess_run (actionOf operation device) device output { after with
    printed := after.printed ++ String.join (lines.map (· ++ "\n")) } with
    ⟨result, required, verdict⟩
  rw [Attempt.run_bind_of_ok printing, required]
  constructor
  · rwa [last]
  · rw [last]
  · rw [last]

theorem decides_performEject
    (found : (host.resolveDevice configuration target).run.run world = (.ok device, reached)) :
    host.Decides device .eject reached
      ((host.performEject configuration target).run.run world) := by
  rcases host.tryEach_pair (TapeOperation.eject.command device)
    (TapeOperation.offline.command device) reached with ⟨output_eq, after_eq, _⟩
  have last : host.lastOf device .eject reached =
      (((host.eject device).run reached).1.output, ((host.eject device).run reached).2) := by
    rw [eject, output_eq, after_eq, lastOf]
    cases ((host.run (TapeOperation.eject.command device)).run reached).1.succeeded <;> rfl
  rw [performEject, Attempt.run_bind_of_ok found, Attempt.run_bind_lift]
  exact decides_of_last last _

theorem decides_performOperation (operation : TapeOperation)
    (found : (host.resolveDevice configuration target).run.run world = (.ok device, reached)) :
    host.Decides device operation reached
      ((host.performOperation configuration target operation).run.run world) := by
  rw [performOperation]
  split
  · next ejects =>
      subst ejects
      exact decides_performEject found
  · next stays =>
      have last : host.lastOf device operation reached =
          (host.operate device operation).run reached := by
        rw [lastOf, operate, if_neg stays, if_neg fun ejects => stays ejects.1]
      have action : (operation.command device).render = actionOf operation device := by
        rw [actionOf, if_neg stays]
      rw [Attempt.run_bind_of_ok found, Attempt.run_bind_lift, action]
      exact decides_of_last last _

theorem decides_perform {request : Request} {operation : TapeOperation}
    (asks : request.operation? = some (target, operation))
    (found : (host.resolveDevice configuration target).run.run world = (.ok device, reached)) :
    host.Decides device operation reached
      ((host.perform configuration request).run.run world) := by
  cases request with
  | operate =>
      cases asks
      exact decides_performOperation operation found
  | eject =>
      cases asks
      exact decides_performEject found
  | _ => cases asks

/-- Without a device there is no operation, and the reason is never that a device is held. -/
theorem isOther_of_not_found {request : Request} {operation : TapeOperation} {reason : Failure}
    (asks : request.operation? = some (target, operation))
    (not_found : (host.resolveDevice configuration target).run.run world =
      (.error reason, reached)) :
    (host.perform configuration request).run.run world = (.error reason, reached) ∧
      reason.IsOther := by
  refine ⟨?_, NeverBusy.resolveDevice host configuration target world reason ?_⟩
  · cases request with
    | operate =>
        cases asks
        rw [perform, performOperation]
        split <;> exact Attempt.run_bind_of_error not_found
    | eject =>
        cases asks
        exact Attempt.run_bind_of_error not_found
    | _ => cases asks
  · rw [not_found]

/-- Only a request for an operation fails because a device is held, and it is the device that was
found for it. -/
theorem exists_operation_of_busy {request : Request}
    (held : ((host.perform configuration request).run.run world).1 = .error (.deviceBusy device)) :
    ∃ target operation reached, request.operation? = some (target, operation) ∧
      (host.resolveDevice configuration target).run.run world = (.ok device, reached) := by
  rcases asks : request.operation? with _ | ⟨target, operation⟩
  · exact absurd rfl (neverBusy_perform host configuration asks world _ held device)
  · rcases resolved : (host.resolveDevice configuration target).run.run world with
      ⟨result, reached⟩
    cases result with
    | error reason =>
        rcases isOther_of_not_found asks resolved with ⟨performed, other⟩
        rw [performed] at held
        cases held
        exact absurd rfl (other device)
    | ok found =>
        have decided := decides_perform asks resolved
        rw [decided.verdict.device_eq held]
        exact ⟨target, operation, reached, rfl, resolved⟩

/--
A device that is given by its path is taken as it is. Once the device of a request for an operation
is found, by its path or by a scan, the result follows from what the last command for the operation
puts out, whatever the commands before it said: the request is fulfilled exactly if that command
succeeded, the device is held exactly if it failed with an error text that says so, and otherwise
the failure quotes the error text without the blanks around it, or says something general if nothing
is left. No request fails because a device is held unless it asks for an operation of that device.
-/
theorem perform_verdict (host : Host σ) (configuration : Configuration) (world : World σ) :
    (∀ target device, target.device = some device →
      (host.resolveDevice configuration target).run.run world = (.ok device, world)) ∧
    (∀ request target operation device reached, request.operation? = some (target, operation) →
      (host.resolveDevice configuration target).run.run world = (.ok device, reached) →
      host.Decides device operation reached
        ((host.perform configuration request).run.run world)) ∧
    ∀ request device,
      ((host.perform configuration request).run.run world).1 = .error (.deviceBusy device) →
      ∃ target operation reached, request.operation? = some (target, operation) ∧
        (host.resolveDevice configuration target).run.run world = (.ok device, reached) := by
  refine ⟨?_, ?_, ?_⟩
  · intro target device given
    rw [resolveDevice, given]
    rfl
  · intro request target operation device reached asks found
    exact decides_perform asks found
  · intro request device held
    exact exists_operation_of_busy held

/-- A drive that is held at first is ejected all the same if it can be taken offline, and is held
only if that fails for the same reason. -/
theorem perform_verdict_eject :
    let host := Host.scanning ⟨⟨"/dev"⟩, .error .notFound, fun _ => .accessible⟩ .complaining
    let device : FilePath := ⟨"/dev/nst0"⟩
    let words := "mt: /dev/nst0: Device or resource busy\n"
    let result (complaints : List String) :=
      ((host.perform {} (.eject { device := some device })).run.run (.start complaints)).1
    result [words] = .ok () ∧ result [words, words] = .error (.deviceBusy device) ∧
      ¬result [words, "mt: Input/output error\n"] = .error (.deviceBusy device) := by
  intro host device words result
  have decides (complaints : List String) :
      host.Decides device .eject (.start complaints) _ :=
    (perform_verdict host {} (.start complaints)).2.1 (.eject { device := some device })
      { device := some device } .eject device (.start complaints) rfl
      ((perform_verdict host {} (.start complaints)).1 _ _ rfl)
  have named : "Device or resource busy".toList <:+: words.toList :=
    Text.containsWord_iff.mp (by decide)
  have silent : ¬"Device or resource busy".toList <:+: "mt: Input/output error\n".toList :=
    Text.containsWord_iff.not.mp (by decide)
  refine ⟨?_, ?_, ?_⟩
  · exact (decides [words]).verdict.ok_iff.mpr rfl
  · exact (decides [words, words]).verdict.busy_iff.mpr ⟨rfl, named⟩
  · intro held
    exact silent ((decides [words, "mt: Input/output error\n"]).verdict.busy_iff.mp held).2

end Host

end TapeAdmin
