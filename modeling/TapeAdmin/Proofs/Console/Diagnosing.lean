import TapeAdmin.Proofs.Console.Printing
import TapeAdmin.Proofs.Diagnostics.Steps
import TapeAdmin.Proofs.File.Storage

/-!
# Diagnostics from end to end

A request for diagnostics runs every suite of its kind, whatever becomes of the others, prints the
reports with a verdict, saves them if a file is given, and fails exactly if a suite was aborted.
-/

namespace TapeAdmin

variable {σ : Type}

namespace World

/-- Nothing is stored. -/
def KeepsFiles (before after : World σ) : Prop :=
  after.files = before.files

theorem chains_keepsFiles : Chains (KeepsFiles : World σ → World σ → Prop) where
  refl _ := rfl
  trans first second := second.trans first

end World

/-- The file system with a text saved, if there is a path to save it at. -/
def FileSystem.saved (system : FileSystem) (output : Option FilePath) (text : String) :
    Except SystemError FileSystem :=
  match output with
  | some path => system.write path (Text.utf8 text)
  | none => .ok system

/-! ### The verdict -/

namespace SuiteReport

theorem failures_eq_zero_iff {report : SuiteReport} :
    report.failures = 0 ↔ ∀ result ∈ report.steps, result.passed = true := by
  simp [failures, List.filter_eq_nil_iff]

theorem totalFailures_eq_zero_iff {reports : List SuiteReport} :
    totalFailures reports = 0 ↔
      ∀ report ∈ reports, ∀ result ∈ report.steps, result.passed = true := by
  rw [totalFailures]
  induction reports with
  | nil => simp
  | cons report reports ih =>
      rw [List.foldr_cons, Nat.add_eq_zero_iff, ih, failures_eq_zero_iff, List.forall_mem_cons]

/-- The verdict is that all steps passed exactly if they did. -/
theorem verdict_eq_iff {reports : List SuiteReport} :
    verdict reports = "✅ All diagnostic steps passed" ↔
      ∀ report ∈ reports, ∀ result ∈ report.steps, result.passed = true := by
  rw [← totalFailures_eq_zero_iff, verdict]
  split
  · next none_failed => simp [none_failed]
  · next some_failed =>
      -- The two verdicts differ in their first character.
      refine iff_of_false (fun same => ?_) some_failed
      have first := congrArg (fun text => text.toList.head?) same
      simp [String.toList_append] at first

end SuiteReport

namespace Host

variable (host : Host σ)

/-! ### Suites one after the other -/

theorem runSuites_eq_mapM (device : FilePath) (suites : List DiagnosticSuite) :
    host.runSuites device suites = suites.mapM (host.runSuite device) := by
  induction suites with
  | nil => rfl
  | cons suite suites ih =>
      rw [runSuites, ih, List.mapM_cons]

theorem runSuites_cons (device : FilePath) (suite : DiagnosticSuite)
    (suites : List DiagnosticSuite) (world : World σ) :
    (host.runSuites device (suite :: suites)).run world =
      let first := (host.runSuite device suite).run world
      let later := (host.runSuites device suites).run first.2
      (first.1 :: later.1, later.2) :=
  rfl

/-- There is one report for each suite, in order. -/
theorem map_title_runSuites (device : FilePath) (suites : List DiagnosticSuite)
    (world : World σ) :
    ((host.runSuites device suites).run world).1.map SuiteReport.title =
      suites.map DiagnosticSuite.title := by
  induction suites generalizing world with
  | nil => rfl
  | cons suite suites ih => exact congrArg (suite.title :: ·) (ih _)

/-- Every report is what running a suite comes to. -/
theorem exists_of_mem_runSuites {device : FilePath} {suites : List DiagnosticSuite}
    {world : World σ} {report : SuiteReport}
    (reported : report ∈ ((host.runSuites device suites).run world).1) :
    ∃ suite ∈ suites, ∃ between, ((host.runSuite device suite).run between).1 = report := by
  induction suites generalizing world with
  | nil => cases reported
  | cons suite suites ih =>
      rw [runSuites_cons] at reported
      rcases List.mem_cons.mp reported with rfl | reported
      · exact ⟨suite, List.mem_cons_self, world, rfl⟩
      · rcases ih reported with ⟨other, other_mem, between, same⟩
        exact ⟨other, List.mem_cons_of_mem _ other_mem, between, same⟩

theorem files_runSuites (device : FilePath) (suites : List DiagnosticSuite) (world : World σ) :
    ((host.runSuites device suites).run world).2.files = world.files :=
  Respects.runSuites World.chains_keepsFiles host device (fun _ _ _ _ _ _ _ => rfl) world

theorem printed_runSuites (device : FilePath) (suites : List DiagnosticSuite) (world : World σ) :
    ((host.runSuites device suites).run world).2.printed = world.printed :=
  Respects.runSuites World.chains_quiet host device (fun _ _ _ _ _ _ _ => rfl) world

/-- What is reported on suites that are run one after the other, whatever became of those before,
with a conclusion behind the reports. -/
structure SuitesReported (device : FilePath) (suites : List DiagnosticSuite) (before : World σ)
    (reports : List SuiteReport) (conclusion : String) (after : World σ) : Prop where
  runs : (suites.mapM (host.runSuite device)).run before = (reports, after)
  /-- There is one report for each suite, in order. -/
  titles : reports.map SuiteReport.title = suites.map DiagnosticSuite.title
  completed_iff : ∀ report ∈ reports, report.completed = true ↔
    ∀ result ∈ report.steps, result.required = true → result.passed = true
  concludes_iff : conclusion = "✅ All diagnostic steps passed" ↔
    ∀ report ∈ reports, ∀ result ∈ report.steps, result.passed = true
  concludes_of_aborted : (∃ report ∈ reports, report.completed = false) →
    conclusion ≠ "✅ All diagnostic steps passed"

theorem completed_iff_of_mem_runSuites {device : FilePath} {suites : List DiagnosticSuite}
    {world : World σ} {report : SuiteReport}
    (reported : report ∈ ((host.runSuites device suites).run world).1) :
    report.completed = true ↔
      ∀ result ∈ report.steps, result.required = true → result.passed = true := by
  rcases host.exists_of_mem_runSuites reported with ⟨suite, _, between, rfl⟩
  simp only [← StepResult.not_isFatal_iff]
  exact completed_runSuite_iff host device suite between

theorem suitesReported_runSuites {device : FilePath} {suites : List DiagnosticSuite}
    {before after : World σ} {reports : List SuiteReport}
    (ran : (host.runSuites device suites).run before = (reports, after)) :
    host.SuitesReported device suites before reports (SuiteReport.verdict reports) after := by
  have completed_iff : ∀ report ∈ reports, report.completed = true ↔
      ∀ result ∈ report.steps, result.required = true → result.passed = true := by
    intro report reported
    exact host.completed_iff_of_mem_runSuites (by rwa [ran])
  constructor
  case runs => rw [← runSuites_eq_mapM, ran]
  case titles => simpa only [ran] using map_title_runSuites host device suites before
  case completed_iff => exact completed_iff
  case concludes_iff => exact SuiteReport.verdict_eq_iff
  case concludes_of_aborted =>
    -- An aborted suite has a step that did not pass.
    rintro ⟨report, reported, stopped⟩ concludes
    have all_passed := SuiteReport.verdict_eq_iff.mp concludes report reported
    have completed := (completed_iff report reported).mpr fun result result_mem _ =>
      all_passed result result_mem
    simp [stopped] at completed

/-! ### The suites of a kind -/

variable (settings : DiagnosticSettings) (kind : SuiteKind) (device : FilePath)

/-- The complete diagnosis has six suites, and one more if it may write; any other kind has one. -/
theorem length_requestedSuites {allowWrite : Bool}
    (permitted : ¬(kind = .readWrite ∧ allowWrite = false)) :
    (host.requestedSuites settings kind device allowWrite).length =
      if kind = .full then if allowWrite then 7 else 6 else 1 := by
  cases allowWrite <;> cases kind <;> first | rfl | simp at permitted

/-- What only writes to the tape is refused before anything is executed. -/
theorem diagnose_of_refused {allowWrite : Bool} (writes : kind = .readWrite)
    (forbidden : allowWrite = false) (world : World σ) :
    (host.diagnose settings kind device allowWrite).run.run world =
      (.error (.invalidParameter writeRefusal), world) := by
  subst writes forbidden
  rfl

theorem diagnose_of_permitted {allowWrite : Bool}
    (permitted : ¬(kind = .readWrite ∧ allowWrite = false)) {before after : World σ}
    {reports : List SuiteReport}
    (ran : (host.runSuites device (host.requestedSuites settings kind device allowWrite)).run
      before = (reports, after)) :
    (host.diagnose settings kind device allowWrite).run.run before = (.ok reports, after) := by
  have not_refused : ¬(kind.writesToTape && !allowWrite) = true := by
    simpa [SuiteKind.writesToTape] using permitted
  have runs : (host.diagnose settings kind device allowWrite).run.run before =
      let ran :=
        (host.runSuites device (host.requestedSuites settings kind device allowWrite)).run before
      (.ok ran.1, ran.2) := by
    rw [diagnose, if_neg not_refused]
    rfl
  rw [runs, ran]

/-! ### Saving reports -/

theorem saveReports_run (path : FilePath) (reports : List SuiteReport) (world : World σ) :
    (saveReports path reports).run.run world =
      match world.files.saved (some path) (SuiteReport.renderAll reports) with
      | .ok files => (.ok (), { world with files := files })
      | .error error => (.error (.system error), world) := by
  change (match world.files.saved (some path) (SuiteReport.renderAll reports) with
    | .ok files => (set { world with files := files } : Attempt σ Unit)
    | .error error => throw (Failure.system error)).run.run world = _
  split <;> rfl

theorem keepReports_of_saved {reports : List SuiteReport} {output : Option FilePath}
    {world : World σ} {files : FileSystem}
    (saved : world.files.saved output (SuiteReport.renderAll reports) = .ok files) :
    (keepReports reports output).run.run world = (.ok (), { world with
      files := files, printed := world.printed ++ Text.ofLines (savedLines output) }) := by
  cases output with
  | none =>
      cases saved
      exact printLines_printed (savedLines none) world
  | some path =>
      have stored : (saveReports path reports : Attempt σ Unit).run.run world =
          (.ok (), { world with files := files }) := by
        rw [saveReports_run, saved]
      exact Attempt.run_bind_of_ok stored

theorem keepReports_of_not_saved {reports : List SuiteReport} {output : Option FilePath}
    {world : World σ} {error : SystemError}
    (fails : world.files.saved output (SuiteReport.renderAll reports) = .error error) :
    (keepReports reports output).run.run world = (.error (.system error), world) := by
  cases output with
  | none => cases fails
  | some path =>
      have refused : (saveReports path reports : Attempt σ Unit).run.run world =
          (.error (.system error), world) := by
        rw [saveReports_run, fails]
      exact Attempt.run_bind_of_error refused

/-! ### Requests for diagnostics -/

/-- A request for diagnostics fails at its end exactly if a suite was aborted. -/
theorem requireSuccess_aborted_run (reports : List SuiteReport) (reason : String)
    (world : World σ) :
    ∃ result, (requireSuccess "diagnostics"
        ((reports.filter fun report => !report.completed).length == 0) reason :
          Attempt σ Unit).run.run world = (result, world) ∧
      ((∃ failure, result = .error failure) ↔ ∃ report ∈ reports, report.completed = false) := by
  have none_aborted : ((reports.filter fun report => !report.completed).length == 0) = true ↔
      ¬∃ report ∈ reports, report.completed = false := by
    simp [List.filter_eq_nil_iff]
  rw [requireSuccess]
  split
  · next none => exact ⟨.ok (), rfl, by simp [none_aborted.mp none]⟩
  · next some =>
      rw [none_aborted, not_not] at some
      exact ⟨_, rfl, fun _ => some, fun _ => ⟨_, rfl⟩⟩

theorem files_resolveDevice (configuration : Configuration) (target : Target) (world : World σ) :
    ((host.resolveDevice configuration target).run.run world).2.files = world.files :=
  Respects.resolveDevice World.chains_keepsFiles (fun _ _ => rfl) host (fun _ _ => rfl) target world

/-- How a request for diagnostics ends that has run its suites: `after` is the world behind them,
`told` is all that has been printed once the reports are, and `text` is what is stored of them. -/
structure ReportsKept (output : Option FilePath) (text told : String) (reports : List SuiteReport)
    (after : World σ) (ended : Except Failure Unit × World σ) : Prop where
  /-- Reports that cannot be saved are printed nevertheless. -/
  ended_of_not_saved : ∀ error, after.files.saved output text = .error error →
    ended = (.error (.system error), { after with printed := told })
  after_of_saved : ∀ files, after.files.saved output text = .ok files →
    ended.2 = { after with
      files := files
      printed := told ++ Text.ofLines (savedLines output) }
  fails_iff_of_saved : ∀ files, after.files.saved output text = .ok files →
    ((∃ failure, ended.1 = .error failure) ↔ ∃ report ∈ reports, report.completed = false)
  /-- The file holds the text, and what is at any other place stays as it was. -/
  stored : ∀ files, after.files.saved output text = .ok files →
    ∀ path place, output = some path → after.files.openPlace path = .ok place →
      FileSystem.entry? after.files place ∉ [some .device, some .fullDevice] →
      files.entry? place = some (.file (Text.utf8 text)) ∧
      ∀ other, other ≠ place → files.entry? other = FileSystem.entry? after.files other

section Request

variable {host} {kind} {configuration : Configuration} {target : Target} {allowWrite : Bool}
  {output : Option FilePath} {world found after : World σ} {device : FilePath}
  {reports : List SuiteReport}
  (resolved : (host.resolveDevice configuration target).run.run world = (.ok device, found))

include resolved

theorem performDiagnose_of_refused (writes : kind = .readWrite) (forbidden : allowWrite = false) :
    (host.performDiagnose configuration target kind allowWrite output).run.run world =
      (.error (.invalidParameter writeRefusal), found) := by
  rw [performDiagnose, Attempt.run_bind_of_ok resolved]
  exact Attempt.run_bind_of_error
    (diagnose_of_refused host configuration.diagnostics kind device writes forbidden found)

variable (diagnosed : (host.diagnose configuration.diagnostics kind device allowWrite).run.run
    found = (.ok reports, after))

include diagnosed

/-- Reports that cannot be saved are printed nevertheless. -/
theorem performDiagnose_of_not_saved {error : SystemError}
    (fails : after.files.saved output (SuiteReport.renderAll reports) = .error error) :
    (host.performDiagnose configuration target kind allowWrite output).run.run world =
      (.error (.system error),
        { after with printed := after.printed ++ Text.ofLines (SuiteReport.summary reports) }) := by
  rw [performDiagnose, Attempt.run_bind_of_ok resolved, Attempt.run_bind_of_ok diagnosed,
    Attempt.run_bind_of_ok (printLines_printed _ _)]
  exact Attempt.run_bind_of_error (keepReports_of_not_saved fails)

/-- Where the reports are saved, the request fails exactly if a suite was aborted. -/
theorem performDiagnose_of_saved {files : FileSystem}
    (saved : after.files.saved output (SuiteReport.renderAll reports) = .ok files) :
    let ended := (host.performDiagnose configuration target kind allowWrite output).run.run world
    ended.2 = { after with
      files := files
      printed := after.printed ++ Text.ofLines (SuiteReport.summary reports) ++
        Text.ofLines (savedLines output) } ∧
    ((∃ failure, ended.1 = .error failure) ↔ ∃ report ∈ reports, report.completed = false) := by
  let told := after.printed ++ Text.ofLines (SuiteReport.summary reports)
  have kept : (keepReports reports output).run.run { after with printed := told } = _ :=
    keepReports_of_saved saved
  rw [performDiagnose, Attempt.run_bind_of_ok resolved, Attempt.run_bind_of_ok diagnosed,
    Attempt.run_bind_of_ok (printLines_printed _ _), Attempt.run_bind_of_ok kept]
  rcases requireSuccess_aborted_run reports
    (toString (reports.filter fun report => !report.completed).length ++ " suite(s) aborted on " ++
      device.text) _ with ⟨result, run, fails_iff⟩
  dsimp only
  rw [run]
  exact ⟨rfl, fails_iff⟩

theorem reportsKept_performDiagnose :
    ReportsKept output (SuiteReport.renderAll reports)
      (after.printed ++ Text.ofLines (SuiteReport.summary reports)) reports after
      ((host.performDiagnose configuration target kind allowWrite output).run.run world) where
  ended_of_not_saved error fails := performDiagnose_of_not_saved resolved diagnosed fails
  after_of_saved files saved := (performDiagnose_of_saved resolved diagnosed saved).1
  fails_iff_of_saved files saved := (performDiagnose_of_saved resolved diagnosed saved).2
  stored files saved path place asked opened no_device := by
    subst asked
    exact FileSystem.entry?_of_write saved opened no_device

end Request

/-- What becomes of a request for diagnostics that is refused. -/
structure DiagnoseRefused (before found : World σ)
    (diagnosed : Except Failure (List SuiteReport) × World σ)
    (ended : Except Failure Unit × World σ) : Prop where
  diagnosed : diagnosed = (.error (.invalidParameter writeRefusal), found)
  ended : ended = (.error (.invalidParameter writeRefusal), found)
  nothing_stored : found.files = before.files

/--
A request for diagnostics on a device. Without permission, what only writes to the tape is refused
before anything is executed or stored. Otherwise there is one report for each suite of the kind, in
order and whatever became of the suites before it. The reports are printed with a conclusion, which
is that all steps passed exactly if they did; if a file is given, it is replaced by the text of the
reports and nothing else is stored. The request then fails exactly if a suite was aborted.
-/
theorem performDiagnose_outcome (configuration : Configuration) (target : Target)
    (kind : SuiteKind) (allowWrite : Bool) (output : Option FilePath) {world found : World σ}
    {device : FilePath}
    (resolved : (host.resolveDevice configuration target).run.run world = (.ok device, found)) :
    let suites := host.requestedSuites configuration.diagnostics kind device allowWrite
    let diagnosed :=
      (host.diagnose configuration.diagnostics kind device allowWrite).run.run found
    let ended := (host.performDiagnose configuration target kind allowWrite output).run.run world
    (kind = .readWrite ∧ allowWrite = false → DiagnoseRefused world found diagnosed ended) ∧
    (¬(kind = .readWrite ∧ allowWrite = false) →
      suites.length = (if kind = .full then if allowWrite then 7 else 6 else 1) ∧
      ∃ reports after conclusion,
        let text := String.intercalate "\n" (reports.map SuiteReport.render)
        let told := found.printed ++ Text.ofLines (reports.map SuiteReport.render ++ [conclusion])
        diagnosed = (.ok reports, after) ∧
        host.SuitesReported device suites found reports conclusion after ∧
        after.files = found.files ∧
        ReportsKept output text told reports after ended) := by
  intro suites diagnosed ended
  refine ⟨?_, fun permitted => ?_⟩
  · rintro ⟨writes, forbidden⟩
    have kept := files_resolveDevice host configuration target world
    rw [resolved] at kept
    exact ⟨diagnose_of_refused host _ kind device writes forbidden found,
      performDiagnose_of_refused resolved writes forbidden, kept⟩
  rcases ran : (host.runSuites device suites).run found with ⟨reports, after⟩
  have reported := diagnose_of_permitted host _ kind device permitted ran
  have same_files : after.files = found.files := by
    simpa only [ran] using files_runSuites host device suites found
  have same_printed : after.printed = found.printed := by
    simpa only [ran] using printed_runSuites host device suites found
  refine ⟨length_requestedSuites host _ kind device permitted, reports, after,
    SuiteReport.verdict reports, reported, suitesReported_runSuites host ran, same_files, ?_⟩
  rw [← same_printed]
  exact reportsKept_performDiagnose resolved reported

/-! ### An aborted suite whose report is saved -/

theorem openPlace_report :
    (⟨[], []⟩ : FileSystem).openPlace ⟨"/report"⟩ = .ok ["report"] := by
  have checked : FileSystem.checkPath ⟨"/report"⟩ = .ok () := rfl
  have segments_eq : (⟨"/report"⟩ : FilePath).segments = ["report"] := by decide +kernel
  have place_eq : (⟨[], []⟩ : FileSystem).writePlace [] ["report"] 41 = .ok ["report"] := by
    rw [FileSystem.writePlace, FileSystem.parentPlace_singleton rfl (by decide)]
    rfl
  rw [FileSystem.openPlace, checked, segments_eq, if_neg (by decide)]
  change (FileSystem.writePlace _ [] _ 41 >>= _) = _
  rw [place_eq]
  rfl

/-- The only step fails, so the request fails, but the report is saved. -/
theorem performDiagnose_outcome_aborted :
    let host := Host.scanning ⟨⟨"/dev"⟩, .error .notFound, fun _ => .accessible⟩ .told
    let target : Target := { device := some ⟨"/dev/nst0"⟩ }
    let ended := (host.performDiagnose {} target .position false (some ⟨"/report"⟩)).run.run
      (.start [false])
    (∃ failure, ended.1 = .error failure) ∧
      ∃ text, FileSystem.entry? ended.2.files ["report"] = some (.file (Text.utf8 text)) := by
  intro host target ended
  let device : FilePath := ⟨"/dev/nst0"⟩
  have resolved : (host.resolveDevice {} target).run.run (.start [false]) =
      (.ok device, .start [false]) :=
    rfl
  rcases performDiagnose_outcome host {} target .position false (some ⟨"/report"⟩) resolved with
    ⟨_, permitted⟩
  rcases permitted (by simp) with ⟨_, reports, after, conclusion, _, reported, same_files, kept⟩
  let text := String.intercalate "\n" (reports.map SuiteReport.render)
  have opened : after.files.openPlace ⟨"/report"⟩ = .ok ["report"] := same_files ▸ openPlace_report
  have saved_start : (⟨[], []⟩ : FileSystem).saved (some ⟨"/report"⟩) text =
      .ok (FileSystem.put ⟨[], []⟩ ["report"] (.file (Text.utf8 text))) := by
    rw [FileSystem.saved, FileSystem.write, openPlace_report]
    rfl
  have saved : after.files.saved (some ⟨"/report"⟩) text =
      .ok (FileSystem.put ⟨[], []⟩ ["report"] (.file (Text.utf8 text))) := by
    rw [same_files]
    exact saved_start
  refine ⟨(kept.fails_iff_of_saved _ saved).mpr ?_, text, ?_⟩
  · have aborted : (((host.requestedSuites {} .position device false).mapM
        (host.runSuite device)).run (.start [false])).1.any (fun report => !report.completed) := by
      decide +kernel
    rw [congrArg Prod.fst reported.runs] at aborted
    simpa using aborted
  · have ended_eq := kept.after_of_saved _ saved
    change ended.2 = _ at ended_eq
    rw [ended_eq]
    exact (kept.stored _ saved _ _ rfl opened (by rw [same_files]; decide)).1

end Host

end TapeAdmin
