import TapeAdmin.Proofs.Command.Rendering
import TapeAdmin.Proofs.Device.Admission
import TapeAdmin.Proofs.Host.Procedures
import TapeAdmin.Proofs.Host.Trace

/-!
# The parts of a status

A status is made of four parts, each from a source of its own: three commands and the device
directory. The commands are executed in one order whatever they put out. Where the tools answer a
command by its text alone, two runs that differ in one source differ in its part only, in the status
as well as on the page: no request for a device has the text of one of the three commands.
-/

namespace TapeAdmin

variable {σ τ : Type}

/-- Tools that answer a command by its text alone, whatever was executed before. -/
def Runner.AnswersByText (runner : Runner σ) (answer : String → CommandOutput) : Prop :=
  ∀ tools execution, (runner.answer tools execution).1.output = answer execution.command.render

/-- The tools that answer commands by their texts and keep no state. -/
def Runner.byText (answer : String → CommandOutput) : Runner Unit where
  answer _ execution := (⟨answer execution.command.render, []⟩, ())

theorem Runner.answersByText_byText (answer : String → CommandOutput) :
    (Runner.byText answer).AnswersByText answer :=
  fun _ _ => rfl

theorem Runner.AnswersByText.run {host : Host σ} {answer : String → CommandOutput}
    (by_text : host.runner.AnswersByText answer) (command : CommandLine) (world : World σ) :
    ((host.run command).run world).1 = answer command.render :=
  by_text world.tools { command := command }

/-! ### Devices -/

namespace Discovery

variable {host : Host σ} {other : Host τ} {answer others_answer : String → CommandOutput}
  {settings : DiscoverySettings}

/-- Which nodes answer depends on the answers to the status requests only. -/
theorem answering_agrees (by_text : host.runner.AnswersByText answer)
    (others_by_text : other.runner.AnswersByText others_answer)
    (agree : ∀ path, answer (statusCommand settings path).render =
      others_answer (statusCommand settings path).render)
    (nodes : List DeviceNode) (world : World σ) (others_world : World τ) :
    ((answering host settings nodes).run world).1 =
      ((answering other settings nodes).run others_world).1 := by
  induction nodes generalizing world others_world with
  | nil => rfl
  | cons node nodes ih =>
      cases accessible : node.accessible with
      | false =>
          rw [answering_cons_of_denied host settings accessible,
            answering_cons_of_denied other settings accessible]
          dsimp only
          rw [ih]
      | true =>
          rw [answering_cons_of_accessible host settings accessible,
            answering_cons_of_accessible other settings accessible]
          dsimp only
          rw [by_text.run, others_by_text.run, agree, ih]

theorem applyPolicy_agrees (by_text : host.runner.AnswersByText answer)
    (others_by_text : other.runner.AnswersByText others_answer)
    (agree : ∀ path, answer (statusCommand settings path).render =
      others_answer (statusCommand settings path).render)
    (nodes : List DeviceNode) (world : World σ) (others_world : World τ) :
    ((applyPolicy host settings nodes).run world).1 =
      ((applyPolicy other settings nodes).run others_world).1 := by
  cases policy : settings.policy with
  | rankAll => rw [applyPolicy_rankAll policy, applyPolicy_rankAll policy]
  | primaryWithProbe =>
      cases found : nodes[primaryIndex settings nodes]? with
      | none => rw [applyPolicy_of_none policy found, applyPolicy_of_none policy found]
      | some primary =>
          rw [applyPolicy_of_some policy found, applyPolicy_of_some policy found]
          dsimp only
          rw [answering_agrees by_text others_by_text agree]

/-- What a scan finds depends on the directory and on the answers to the status requests only. -/
theorem discover_agrees (by_text : host.runner.AnswersByText answer)
    (others_by_text : other.runner.AnswersByText others_answer)
    (agree : ∀ path, answer (statusCommand settings path).render =
      others_answer (statusCommand settings path).render)
    {world : World σ} {others_world : World τ}
    (same_devices : host.devices world.files = other.devices others_world.files) :
    ((host.discover settings).run world).1 = ((other.discover settings).run others_world).1 := by
  rw [discover_run, discover_run, same_devices]
  dsimp only
  rw [applyPolicy_agrees by_text others_by_text agree]

end Discovery

/-! ### Parts -/

/-- The parts of a status. -/
inductive StatusPart where
  | version
  | devices
  | mounts
  | kernel
  deriving DecidableEq

namespace StatusPart

/-- The command that a part is made from. The devices come from the device directory instead, and
from requests to single devices. -/
def command? : StatusPart → Option CommandLine
  | .version => some { program := "ltfs", arguments := ["--version"] }
  | .devices => none
  | .mounts => some { program := "mount", arguments := [] }
  | .kernel => some { program := "uname", arguments := ["-a"] }

/-- The lines of a part on the page. -/
def lines (status : SystemStatus) : StatusPart → List String
  | .version => SystemStatus.versionSection status.ltfsVersion
  | .devices => SystemStatus.deviceSection status.inventory
  | .mounts => SystemStatus.mountSection status.mounts status.mountsError
  | .kernel => SystemStatus.kernelSection status.kernel

/-- The text of a part on the page. -/
def text (status : SystemStatus) (part : StatusPart) : String :=
  String.join ((part.lines status).map (· ++ "\n"))

/-- No request for the status of a device is rendered like the command of a part. -/
theorem render_ne_statusCommand {part : StatusPart} {command : CommandLine}
    (has_command : part.command? = some command) (settings : DiscoverySettings) (path : FilePath) :
    command.render ≠ (Discovery.statusCommand settings path).render := by
  intro same_text
  have same_words := command.words_of_render
  rw [same_text, CommandLine.words_of_render] at same_words
  cases part
  all_goals cases has_command
  all_goals simp [CommandLine.words, Discovery.statusCommand] at same_words

/-- The commands of two parts are rendered differently. -/
theorem render_injective {part other : StatusPart} {command : CommandLine}
    (has_command : part.command? = some command)
    (same_text : other.command?.map CommandLine.render = some command.render) : other = part := by
  rcases Option.map_eq_some_iff.mp same_text with ⟨others_command, others_has, same_text⟩
  have same_words := command.words_of_render
  rw [← same_text, CommandLine.words_of_render] at same_words
  cases part
  all_goals cases has_command
  all_goals cases other
  all_goals cases others_has
  all_goals first | rfl | simp [CommandLine.words] at same_words

end StatusPart

namespace SystemStatus

/-- Two statuses are the same except for one part. -/
structure SameExcept (part : StatusPart) (status other : SystemStatus) : Prop where
  version : part ≠ .version → status.ltfsVersion = other.ltfsVersion
  inventory : part ≠ .devices → status.inventory = other.inventory
  mounts : part ≠ .mounts → status.mounts = other.mounts ∧ status.mountsError = other.mountsError
  kernel : part ≠ .kernel → status.kernel = other.kernel

variable {part : StatusPart} {status other : SystemStatus}

/-- Parts other than the one in which two statuses may differ have the same text. -/
theorem SameExcept.text_eq (same : status.SameExcept part other) (unchanged : StatusPart)
    (different : part ≠ unchanged) : unchanged.text status = unchanged.text other := by
  cases unchanged with
  | version => simp only [StatusPart.text, StatusPart.lines, same.version different]
  | devices => simp only [StatusPart.text, StatusPart.lines, same.inventory different]
  | mounts =>
      rcases same.mounts different with ⟨mounts, error⟩
      simp only [StatusPart.text, StatusPart.lines, mounts, error]
  | kernel => simp only [StatusPart.text, StatusPart.lines, same.kernel different]

/-- The lines of the page above all parts. -/
def head (time : String) : String :=
  String.join (["=== LTFS System Status ===", "Collected: " ++ time].map (· ++ "\n"))

/-- What the page is made of: its head and the texts of the parts, with an empty line before each
part. -/
def pieces (time : String) (text : StatusPart → String) : List String :=
  [head time, "\n", text .version, "\n", text .devices, "\n", text .mounts, "\n", text .kernel]

theorem render_eq (status : SystemStatus) :
    status.render = String.join (pieces status.collectedAt fun part => part.text status) := by
  change head status.collectedAt ++ _ ++ _ ++ _ ++ _ ++ _ ++ _ ++ _ ++ _ =
    "" ++ head status.collectedAt ++ _ ++ _ ++ _ ++ _ ++ _ ++ _ ++ _ ++ _
  rw [String.empty_append]
  rfl

/-- The pieces before and after the text of a part. -/
theorem pieces_around (time : String) {text others_text : StatusPart → String} (part : StatusPart)
    (agree : ∀ unchanged, part ≠ unchanged → text unchanged = others_text unchanged) :
    ∃ front back, pieces time text = front ++ text part :: back ∧
      pieces time others_text = front ++ others_text part :: back := by
  cases part with
  | version =>
      refine ⟨[head time, "\n"], _, rfl, ?_⟩
      rw [agree .devices (by decide), agree .mounts (by decide), agree .kernel (by decide)]
      rfl
  | devices =>
      refine ⟨[head time, "\n", text .version, "\n"], _, rfl, ?_⟩
      rw [agree .version (by decide), agree .mounts (by decide), agree .kernel (by decide)]
      rfl
  | mounts =>
      refine ⟨[head time, "\n", text .version, "\n", text .devices, "\n"], _, rfl, ?_⟩
      rw [agree .version (by decide), agree .devices (by decide), agree .kernel (by decide)]
      rfl
  | kernel =>
      refine ⟨[head time, "\n", text .version, "\n", text .devices, "\n", text .mounts, "\n"], _,
        rfl, ?_⟩
      rw [agree .version (by decide), agree .devices (by decide), agree .mounts (by decide)]
      rfl

/-- Two pages of one time are the same before and after the part in which the statuses differ. -/
theorem SameExcept.render_eq (same : status.SameExcept part other)
    (same_time : status.collectedAt = other.collectedAt) :
    ∃ before after, status.render = before ++ part.text status ++ after ∧
      other.render = before ++ part.text other ++ after := by
  rcases pieces_around other.collectedAt part same.text_eq with ⟨front, back, pieces, others_pieces⟩
  refine ⟨String.join front, String.join back, ?_, ?_⟩
  · rw [SystemStatus.render_eq, same_time, pieces, String.join_append, String.join_cons,
      String.append_assoc]
  · rw [SystemStatus.render_eq, others_pieces, String.join_append, String.join_cons,
      String.append_assoc]

/-- The status that outputs and an inventory make. -/
def ofOutputs (time : String) (version : CommandOutput) (inventory : Inventory)
    (mounts kernel : CommandOutput) : SystemStatus where
  collectedAt := time
  ltfsVersion := versionText version
  inventory := inventory
  mounts := if mounts.succeeded then ListedMount.parse mounts.stdout else []
  mountsError :=
    if mounts.succeeded then none
    else some (Failure.commandFailed Host.listMountsCommand.render mounts.stderr).message
  kernel := if kernel.succeeded then some kernel.stdout else none

end SystemStatus

/-! ### Collecting the parts -/

namespace Host

open StatusPart (render_injective render_ne_statusCommand)

/-- The mounts of the operating system are what one command says, if it succeeds. -/
theorem listMounts_run (host : Host σ) (world : World σ) :
    let output := (host.run listMountsCommand).run world
    host.listMounts.run.run world =
      (if output.1.succeeded then .ok (ListedMount.parse output.1.stdout)
        else .error (.commandFailed listMountsCommand.render output.1.stderr), output.2) := by
  intro output
  rw [listMounts, Attempt.run_bind_lift]
  cases succeeded : output.1.succeeded with
  | true =>
      have accepted : output.1.orFailure listMountsCommand = .ok output.1 := if_pos succeeded
      rw [Attempt.run_bind_of_except_ok accepted]
      rfl
  | false =>
      have refused : output.1.orFailure listMountsCommand =
          .error (.commandFailed listMountsCommand.render output.1.stderr) :=
        if_neg (by simp [succeeded])
      rw [Attempt.run_bind_of_except_error refused]
      rfl

/-- A status is made of what its sources say one after another. -/
theorem status_run (host : Host σ) (settings : DiscoverySettings) (world : World σ) :
    let version := (host.run versionCommand).run world
    let scan := (host.discover settings).run version.2
    let mounts := (host.run listMountsCommand).run scan.2
    let kernel := (host.run kernelCommand).run mounts.2
    (host.status settings).run world =
      (.ofOutputs host.now version.1 scan.1 mounts.1 kernel.1, kernel.2) := by
  intro version scan mounts kernel
  have listed : host.listMounts.run.run scan.2 =
      (if mounts.1.succeeded then .ok (ListedMount.parse mounts.1.stdout)
        else .error (.commandFailed listMountsCommand.render mounts.1.stderr), mounts.2) :=
    host.listMounts_run scan.2
  rw [status, StateT.run_bind]
  change (host.discover settings >>= _ : Procedure σ SystemStatus).run version.2 = _
  rw [StateT.run_bind]
  change (host.listMounts.run >>= _ : Procedure σ SystemStatus).run scan.2 = _
  rw [StateT.run_bind, listed, SystemStatus.ofOutputs]
  cases mounts.1.succeeded <;> rfl

/-- What is executed for a status is three commands, and the status requests of the scan after the
first, whatever the tools put out. -/
theorem executed_status (host : Host σ) (settings : DiscoverySettings) (world : World σ) :
    let started := ((host.run versionCommand).run world).2
    let scanned := ((host.discover settings).run started).2
    ∃ requests, scanned.executed = started.executed ++ requests ∧
      (∀ request ∈ requests, ∃ path, request.command = Discovery.statusCommand settings path) ∧
      ((host.status settings).run world).2.executed = world.executed ++
        { command := versionCommand } :: requests ++
          [{ command := listMountsCommand }, { command := kernelCommand }] := by
  intro started scanned
  let isRequest (command : CommandLine) : Prop :=
    ∃ path, command = Discovery.statusCommand settings path
  have request_only (node : DeviceNode) :
      Respects (World.Ran isRequest) (host.run (Discovery.statusRequest settings node)) :=
    World.Ran.respects_run host ⟨node.path, rfl⟩
  have requests_only := Respects.discover World.chains_ran host request_only started
  rcases requests_only.executes with ⟨requests, scanned_eq, requests_kind⟩
  refine ⟨requests, scanned_eq, requests_kind, ?_⟩
  have ended := host.status_run settings world
  dsimp only at ended
  rw [ended]
  change scanned.executed ++ [_] ++ [_] = _
  rw [scanned_eq]
  change world.executed ++ [_] ++ requests ++ [_] ++ [_] = _
  simp only [List.append_assoc, List.cons_append, List.nil_append]

/-- Collecting on two hosts whose sources differ in one part yields two statuses that differ in that
part only. -/
theorem status_sameExcept {host : Host σ} {other : Host τ}
    {answer others_answer : String → CommandOutput} (by_text : host.runner.AnswersByText answer)
    (others_by_text : other.runner.AnswersByText others_answer) {part : StatusPart}
    (agree : ∀ text, part.command?.map CommandLine.render ≠ some text →
      answer text = others_answer text)
    {world : World σ} {others_world : World τ}
    (same_devices : part ≠ .devices → host.devices world.files = other.devices others_world.files)
    (settings : DiscoverySettings) :
    ((host.status settings).run world).1.SameExcept part
      ((other.status settings).run others_world).1 := by
  have same_answer {kept : StatusPart} {command : CommandLine} (different : part ≠ kept)
      (has_command : kept.command? = some command) :
      answer command.render = others_answer command.render :=
    agree _ fun same_text => different (render_injective has_command same_text)
  have same_requests : ∀ path, answer (Discovery.statusCommand settings path).render =
      others_answer (Discovery.statusCommand settings path).render := by
    intro path
    apply agree
    intro same_text
    rcases Option.map_eq_some_iff.mp same_text with ⟨command, has_command, same_text⟩
    exact render_ne_statusCommand has_command settings path same_text
  have ended := host.status_run settings world
  have others_ended := other.status_run settings others_world
  dsimp only at ended others_ended
  rw [ended, others_ended]
  constructor
  case version =>
    intro different
    simp only [SystemStatus.ofOutputs, by_text.run, others_by_text.run]
    exact congrArg versionText (same_answer different rfl)
  case inventory =>
    intro different
    exact Discovery.discover_agrees by_text others_by_text same_requests (same_devices different)
  case mounts =>
    intro different
    have same_mounts : answer listMountsCommand.render = others_answer listMountsCommand.render :=
      same_answer different rfl
    simp only [SystemStatus.ofOutputs, by_text.run, others_by_text.run, same_mounts, and_self]
  case kernel =>
    intro different
    have same_kernel : answer kernelCommand.render = others_answer kernelCommand.render :=
      same_answer different rfl
    simp only [SystemStatus.ofOutputs, by_text.run, others_by_text.run, same_kernel]

/--
For a status `ltfs --version` is executed, then the status requests of a scan, then `mount`, then
`uname -a`, whatever the tools put out. Where the tools answer commands by their texts, take two
hosts that differ in one source: in the answer to one of these three commands, or in the device
directory. Their statuses have all fields in common that are not made from it, and if they are
collected at one time, their pages are the same before and after the part that is.
-/
theorem status_parts_independent (settings : DiscoverySettings) :
    (∀ (σ : Type) (host : Host σ) (world : World σ),
      let version : CommandLine := { program := "ltfs", arguments := ["--version"] }
      let mounts : CommandLine := { program := "mount", arguments := [] }
      let kernel : CommandLine := { program := "uname", arguments := ["-a"] }
      let started := ((host.run version).run world).2
      let scanned := ((host.discover settings).run started).2
      ∃ requests, scanned.executed = started.executed ++ requests ∧
        (∀ request ∈ requests, ∃ path, request.command = Discovery.statusCommand settings path) ∧
        ((host.status settings).run world).2.executed = world.executed ++
          { command := version } :: requests ++ [{ command := mounts }, { command := kernel }]) ∧
    (∀ (σ τ : Type) (host : Host σ) (other : Host τ) (world : World σ) (others_world : World τ)
      (answer others_answer : String → CommandOutput) (part : StatusPart),
      host.runner.AnswersByText answer → other.runner.AnswersByText others_answer →
      (∀ text, part.command?.map CommandLine.render ≠ some text →
        answer text = others_answer text) →
      (part ≠ .devices → host.devices world.files = other.devices others_world.files) →
      let status := ((host.status settings).run world).1
      let others_status := ((other.status settings).run others_world).1
      status.SameExcept part others_status ∧
        (host.now = other.now →
          ∃ before after, status.render = before ++ part.text status ++ after ∧
            others_status.render = before ++ part.text others_status ++ after)) := by
  constructor
  · intro σ host world
    exact host.executed_status settings world
  · intro σ τ host other world others_world answer others_answer part by_text others_by_text agree
      same_devices status others_status
    have same : status.SameExcept part others_status :=
      status_sameExcept by_text others_by_text agree same_devices settings
    refine ⟨same, ?_⟩
    intro same_time
    exact same.render_eq same_time

/-- A host on which `mount` fails, beside one on which it succeeds. -/
theorem status_parts_independent_mounts :
    let answer : String → CommandOutput := fun _ => { succeeded := true, stdout := "2.4.5" }
    let others_answer : String → CommandOutput := fun text =>
      if text = "mount" then .failure "no table" else answer text
    let host := Host.scanning .twoDrives (.byText answer)
    let other := Host.scanning .twoDrives (.byText others_answer)
    let status := ((host.status {}).run (.start ())).1
    let others_status := ((other.status {}).run (.start ())).1
    status.mountsError = none ∧
      others_status.mountsError = some "Command `mount` failed: no table" ∧
      status.inventory = others_status.inventory ∧
      ∃ before after, status.render = before ++ StatusPart.mounts.text status ++ after ∧
        others_status.render = before ++ StatusPart.mounts.text others_status ++ after := by
  intro answer others_answer host other status others_status
  have rendered : StatusPart.mounts.command?.map CommandLine.render = some "mount" := by decide
  have agree : ∀ text, StatusPart.mounts.command?.map CommandLine.render ≠ some text →
      answer text = others_answer text := by
    intro text different
    rw [rendered] at different
    simp only [others_answer]
    rw [if_neg fun same => different (congrArg some same.symm)]
  rcases (status_parts_independent {}).2 Unit Unit host other (.start ()) (.start ()) answer
    others_answer .mounts (Runner.answersByText_byText answer)
    (Runner.answersByText_byText others_answer) agree (fun _ => rfl) with ⟨same, same_page⟩
  exact ⟨rfl, rfl, same.inventory (by decide), same_page rfl⟩

end Host

end TapeAdmin
