import TapeAdmin.Console.Program
import TapeAdmin.Proofs.Configuration.Declared
import TapeAdmin.Proofs.Toml.Document

/-!
# From a document to a configuration

A document gives a configuration if and only if its keys are declared ones and their values fit. The
configuration then has what the document gives, and the defaults for all that it does not give,
whether single keys are missing or whole sections.
-/

namespace TapeAdmin.Configuration

open Toml (Value Entries Span TableOrigin)

/-! ## Sections and rows -/

/-- A section of a file: its fields, and where a configuration has them. -/
structure Part where
  Content : Type
  name : String
  fields : List (Field Content)
  get : Configuration → Content

/-- The sections that a file may have. -/
def parts : List Part := [
  ⟨DiscoverySettings, "discovery", discoveryFields, Configuration.discovery⟩,
  ⟨MountSettings, "mount", mountFields, Configuration.mount⟩,
  ⟨FormatSettings, "format", formatFields, Configuration.format⟩,
  ⟨DiagnosticSettings, "diagnostics", diagnosticFields, Configuration.diagnostics⟩]

/-- A declared key of a file, in one of its sections or in none. -/
structure Row where
  place : Option String
  name : String
  kind : ValueKind
  default : Held
  get : Configuration → Held

/-- The only key outside the sections: the directory of the device nodes. -/
def directoryRow : Row :=
  ⟨none, "device_dir", .path, .path (some ⟨"/dev"⟩),
    fun configuration => .path (some configuration.deviceDirectory)⟩

/-- A key of a section as a key of the whole file. -/
def Part.row (part : Part) (field : Field part.Content) : Row :=
  ⟨some part.name, field.name, field.kind, field.default,
    fun configuration => field.get (part.get configuration)⟩

/-- All declared keys. -/
def declared : List Row :=
  directoryRow :: parts.flatMap fun part => part.fields.map part.row

/-- The value that a document gives for a key. -/
def Row.given? (row : Row) (entries : Entries) : Option Value :=
  match row.place with
  | none => entries.get? row.name
  | some place =>
    match entries.get? place with
    | some (.table _ _ inner) => Entries.get? inner row.name
    | _ => none

/-- A configuration has for a key what the document gives, or the default. -/
def Row.Holds (row : Row) (entries : Entries) (configuration : Configuration) : Prop :=
  match row.given? entries with
  | none => row.get configuration = row.default
  | some value => Reads row.kind value (row.get configuration)

/-- Sections are tables, and the policy is a text. -/
structure Sectioned (entries : Entries) : Prop where
  tables : ∀ part ∈ parts, ∀ value, entries.get? part.name = some value →
    ∃ span origin inner, value = .table span origin inner
  policy : ∀ row ∈ declared, row.kind = .policy → ∀ value, row.given? entries = some value →
    ∃ span word, value = .text span word

/-- A table is told by the word for its kind. -/
theorem exists_table_of_kindWord {value : Value} (is_table : value.kindWord = "table") :
    ∃ span origin inner, value = .table span origin inner := by
  cases value with
  | table span origin inner => exact ⟨span, origin, inner, rfl⟩
  | list span ofTables items => cases ofTables <;> simp [Value.kindWord] at is_table
  | _ => simp [Value.kindWord] at is_table

/-- All keys are declared, and their values are of the declared kinds. -/
structure Fits (entries : Entries) : Prop where
  keys : ∀ entry ∈ entries, entry.1.text = "device_dir" ∨ ∃ part ∈ parts, part.name = entry.1.text
  innerKeys : ∀ part ∈ parts, ∀ span origin inner,
    entries.get? part.name = some (.table span origin inner) →
    ∀ entry ∈ inner, ∃ field ∈ part.fields, field.name = entry.1.text
  values : ∀ row ∈ declared, ∀ value, row.given? entries = some value →
    ∃ held, Reads row.kind value held

/-! ## One section -/

/-- A section is laid over its defaults by settings. -/
structure Part.IsSetBy (part : Part) (inner : List (Setting part.Content)) : Prop where
  describes : Describes part.fields inner
  default : ∀ field ∈ part.fields, field.get (part.get {}) = field.default
  governs : Setting.Governs settings part.name part.get fun value content =>
    ∀ span origin entries, value = .table span origin entries →
      Setting.overlay inner (part.get {}) entries = .ok content
  accepts : ∃ setting, Setting.find? settings part.name = some setting ∧
    ∀ span origin entries content, Setting.overlay inner (part.get {}) entries = .ok content →
      setting.Accepts (.table span origin entries)

theorem Part.isSetBy_of {part : Part} {inner : List (Setting part.Content)} {expected : String}
    {store : Configuration → part.Content → Configuration} (describes : Describes part.fields inner)
    (default : ∀ field ∈ part.fields, field.get (part.get {}) = field.default)
    (found : Setting.find? settings part.name =
      some (.of part.name (Setting.ofSection inner (part.get {}) expected) store))
    (governs : Setting.Governs settings part.name part.get fun value content =>
      Setting.ofSection inner (part.get {}) expected value = .ok content) :
    part.IsSetBy inner where
  describes := describes
  default := default
  governs setting present current value next set := by
    have sets := governs setting present set
    split at sets
    · next named =>
        rw [if_pos named]
        rintro span origin entries rfl
        exact sets
    · next different => rwa [if_neg different]
  accepts := ⟨_, found, fun _ _ _ content overlaid => Setting.accepts_of ⟨content, overlaid⟩⟩

theorem exists_isSetBy : ∀ part ∈ parts, ∃ inner, part.IsSetBy inner := by
  simp only [parts, List.forall_mem_cons]
  refine ⟨⟨_, Part.isSetBy_of describes_discovery ?_ rfl ?_⟩,
    ⟨_, Part.isSetBy_of describes_mount ?_ rfl ?_⟩,
    ⟨_, Part.isSetBy_of describes_format ?_ rfl ?_⟩,
    ⟨_, Part.isSetBy_of describes_diagnostics ?_ rfl ?_⟩, by simp⟩
  · simp [discoveryFields]
  · simp [settings, Setting.Governs, Setting.set_of_eq_ok_iff, Setting.name_of]
  · simp [mountFields]
  · simp [settings, Setting.Governs, Setting.set_of_eq_ok_iff, Setting.name_of]
  · simp [formatFields]
  · simp [settings, Setting.Governs, Setting.set_of_eq_ok_iff, Setting.name_of]
  · simp [diagnosticFields]
  · simp [settings, Setting.Governs, Setting.set_of_eq_ok_iff, Setting.name_of]

variable {entries : Entries} {configuration : Configuration} {part : Part}
  {inner : List (Setting part.Content)} {field : Field part.Content} {span : Span}
  {origin : TableOrigin} {content : Entries}

theorem mem_declared_of_field (is_part : part ∈ parts) (is_field : field ∈ part.fields) :
    part.row field ∈ declared :=
  List.mem_cons_of_mem _ (List.mem_flatMap.mpr ⟨part, is_part, List.mem_map_of_mem is_field⟩)

theorem Sectioned.plain (sectioned : Sectioned entries) (is_part : part ∈ parts)
    (is_field : field ∈ part.fields) {value : Value}
    (given : (part.row field).given? entries = some value) : field.kind.Plain value := by
  cases kind : field.kind with
  | policy =>
      exact sectioned.policy _ (mem_declared_of_field is_part is_field) kind value given
  | _ => trivial

theorem given?_row_of_table (found : entries.get? part.name = some (.table span origin content)) :
    (part.row field).given? entries = content.get? field.name := by
  simp [Row.given?, Part.row, found]

namespace Part.IsSetBy

/-- A section that is a table is accepted if and only if its keys and values are. -/
theorem exists_overlay_iff (sets : part.IsSetBy inner) (is_part : part ∈ parts)
    (sectioned : Sectioned entries) (distinct : content.keys.Nodup)
    (found : entries.get? part.name = some (.table span origin content)) :
    (∃ result, Setting.overlay inner (part.get {}) content = .ok result) ↔
      (∀ entry ∈ content, ∃ field ∈ part.fields, field.name = entry.1.text) ∧
        ∀ field ∈ part.fields, ∀ value, (part.row field).given? entries = some value →
          ∃ held, Reads field.kind value held := by
  have given {key} {value} (present : (key, value) ∈ content) {field : Field part.Content}
      (named : field.name = key.text) : (part.row field).given? entries = some value := by
    rw [given?_row_of_table found, named]
    exact Toml.Entries.get?_eq_some_of_mem distinct present
  rw [sets.describes.exists_overlay_iff fun entry present field is_field named =>
    sectioned.plain is_part is_field (given present named)]
  constructor
  · intro accepted
    refine ⟨fun entry present => ?_, fun field is_field value is_given => ?_⟩
    · rcases accepted entry present with ⟨field, is_field, named, -⟩
      exact ⟨field, is_field, named⟩
    · rw [given?_row_of_table found] at is_given
      rcases Toml.Entries.mem_of_get? is_given with ⟨key, named, present⟩
      rcases accepted _ present with ⟨other, is_other, other_named, reads⟩
      have same_name : other.name = field.name := other_named.trans named
      rwa [List.inj_on_of_nodup_map sets.describes.distinct is_other is_field same_name] at reads
  · rintro ⟨keys, values⟩ entry present
    rcases keys entry present with ⟨field, is_field, named⟩
    exact ⟨field, is_field, named, values field is_field _ (given present named)⟩

/-- The section of a configuration has what its table gives, or the defaults. -/
theorem holds (sets : part.IsSetBy inner) (is_part : part ∈ parts)
    (unambiguous : entries.Unambiguous) (sectioned : Sectioned entries)
    (accepted : ofEntries entries = .ok configuration) (is_field : field ∈ part.fields) :
    (part.row field).Holds entries configuration := by
  rw [Row.Holds]
  cases found : entries.get? part.name with
  | none =>
      have absent : (part.row field).given? entries = none := by simp [Row.given?, Part.row, found]
      have unchanged := sets.governs.overlay_absent found accepted
      rw [absent]
      exact (congrArg field.get unchanged).trans (sets.default field is_field)
  | some value =>
      rcases sectioned.tables part is_part value found with ⟨span, origin, content, rfl⟩
      have overlaid :=
        sets.governs.overlay_present unambiguous.distinct found accepted span origin content rfl
      have distinct := (unambiguous.value_of_get? found).inside.distinct
      have governs := sets.describes.governs is_field
      cases given : (part.row field).given? entries with
      | none =>
          have unchanged := governs.overlay_absent (given?_row_of_table found ▸ given) overlaid
          exact unchanged.trans (sets.default field is_field)
      | some value =>
          have reads :=
            governs.overlay_present distinct (given?_row_of_table found ▸ given) overlaid
          exact reads (sectioned.plain is_part is_field given)

end Part.IsSetBy

/-! ## The whole document -/

theorem governs_directory :
    Setting.Governs settings "device_dir" Configuration.deviceDirectory fun value path =>
      value.asPath = .ok path := by
  simp [settings, Setting.Governs, Setting.set_of_eq_ok_iff, Setting.name_of]

theorem holds_directoryRow (unambiguous : entries.Unambiguous)
    (accepted : ofEntries entries = .ok configuration) :
    directoryRow.Holds entries configuration := by
  rw [Row.Holds]
  cases given : directoryRow.given? entries with
  | none =>
      have unchanged := governs_directory.overlay_absent given accepted
      exact congrArg (fun path => Held.path (some path)) unchanged
  | some value =>
      have decoded := governs_directory.overlay_present unambiguous.distinct given accepted
      exact decodes_path.reads trivial decoded

/-- A configuration that is read from entries has for every key what they give, or the default. -/
theorem holds_of_ofEntries (unambiguous : entries.Unambiguous) (sectioned : Sectioned entries)
    (accepted : ofEntries entries = .ok configuration) :
    ∀ row ∈ declared, row.Holds entries configuration := by
  intro row is_declared
  rcases List.mem_cons.mp is_declared with rfl | is_declared
  · exact holds_directoryRow unambiguous accepted
  · rcases List.mem_flatMap.mp is_declared with ⟨part, is_part, is_row⟩
    rcases List.mem_map.mp is_row with ⟨field, is_field, rfl⟩
    rcases exists_isSetBy part is_part with ⟨inner, sets⟩
    exact sets.holds is_part unambiguous sectioned accepted is_field

/-- The keys of a file are that of the directory and those of the sections. -/
theorem mem_settings_iff {name : String} :
    (∃ setting ∈ settings, setting.name = name) ↔
      name = "device_dir" ∨ ∃ part ∈ parts, part.name = name := by
  simp [settings, parts, Setting.name_of, eq_comm]

theorem steady_settings : ∀ setting ∈ settings, setting.Steady := by
  simp [settings, Setting.steady_of]

/-- Entries are read as a configuration if and only if they fit. -/
theorem exists_ofEntries_iff (unambiguous : entries.Unambiguous) (sectioned : Sectioned entries) :
    (∃ configuration, ofEntries entries = .ok configuration) ↔ Fits entries := by
  constructor
  · rintro ⟨configuration, accepted⟩
    refine ⟨fun entry present => ?_, ?_, ?_⟩
    · have taken := (Setting.exists_overlay_iff steady_settings).mp ⟨configuration, accepted⟩
      rcases taken entry present with ⟨setting, found, -⟩
      rcases Setting.mem_of_find? found with ⟨is_setting, named⟩
      exact mem_settings_iff.mp ⟨setting, is_setting, named⟩
    · intro part is_part span origin content found
      rcases exists_isSetBy part is_part with ⟨inner, sets⟩
      have overlaid :=
        sets.governs.overlay_present unambiguous.distinct found accepted span origin content rfl
      have distinct := (unambiguous.value_of_get? found).inside.distinct
      exact ((sets.exists_overlay_iff is_part sectioned distinct found).mp ⟨_, overlaid⟩).1
    · intro row is_declared value given
      have holds := holds_of_ofEntries unambiguous sectioned accepted row is_declared
      rw [Row.Holds, given] at holds
      exact ⟨_, holds⟩
  · intro fits
    refine (Setting.exists_overlay_iff steady_settings).mpr fun entry present => ?_
    rcases entry with ⟨key, value⟩
    have found := Toml.Entries.get?_eq_some_of_mem unambiguous.distinct present
    rcases fits.keys _ present with is_directory | ⟨part, is_part, named⟩
    · dsimp only at is_directory
      rw [is_directory] at found ⊢
      rcases fits.values directoryRow List.mem_cons_self value found with ⟨held, reads⟩
      exact ⟨_, rfl, Setting.accepts_of (decodes_path.exists_ok reads)⟩
    · dsimp only at named
      rw [← named] at found ⊢
      rcases sectioned.tables part is_part value found with ⟨span, origin, content, rfl⟩
      rcases exists_isSetBy part is_part with ⟨inner, sets⟩
      rcases sets.accepts with ⟨setting, is_setting, accepts⟩
      have distinct := (unambiguous.value_of_get? found).inside.distinct
      have keys := fits.innerKeys part is_part span origin content found
      have values : ∀ field ∈ part.fields, ∀ value, (part.row field).given? entries = some value →
          ∃ held, Reads field.kind value held := fun field is_field =>
        fits.values (part.row field) (mem_declared_of_field is_part is_field)
      rcases (sets.exists_overlay_iff is_part sectioned distinct found).mpr ⟨keys, values⟩ with
        ⟨result, overlaid⟩
      exact ⟨setting, is_setting, accepts span origin content result overlaid⟩

/-! ## Numbers that must not be zero -/

theorem Row.Holds.zero_iff {row : Row} {limit : Nat} (holds : row.Holds entries configuration)
    (numeric : row.kind = .number limit) (default : row.default ≠ .number 0) :
    row.get configuration = .number 0 ↔ ∃ span, row.given? entries = some (.integer span 0) := by
  rw [Row.Holds] at holds
  cases given : row.given? entries with
  | none => simp_all
  | some value =>
      simp only [given, numeric] at holds
      constructor
      · intro is_zero
        rw [is_zero] at holds
        cases holds with
        | number span _ => exact ⟨span, rfl⟩
      · rintro ⟨span, is_zero⟩
        cases is_zero
        exact holds.unique (.number span (Nat.zero_le limit))

theorem check_eq_ok_iff {result : Configuration} :
    configuration.check = .ok result ↔ configuration.discovery.probeTimeout ≠ 0 ∧
      configuration.diagnostics.testMegabytes ≠ 0 ∧ configuration = result := by
  rw [check]
  split
  · simp [*]
  · split <;> simp [*]

theorem ofDocument_eq_ok_iff {document : String} (parsed : Toml.parse document = .ok entries) :
    ofDocument document = .ok configuration ↔ ofEntries entries = .ok configuration ∧
      configuration.discovery.probeTimeout ≠ 0 ∧ configuration.diagnostics.testMegabytes ≠ 0 := by
  have bound : (Toml.parse document >>= ofEntries) = ofEntries entries := by
    rw [parsed]
    rfl
  rw [ofDocument, bound]
  cases ofEntries entries with
  | error fault => simp
  | ok result =>
      dsimp only
      rw [check_eq_ok_iff, Except.ok.injEq]
      constructor
      · rintro ⟨timeout, megabytes, rfl⟩
        exact ⟨rfl, timeout, megabytes⟩
      · rintro ⟨rfl, timeout, megabytes⟩
        exact ⟨timeout, megabytes, rfl⟩

/-- The key for how long a probe may take, which must not be zero. -/
def timeoutRow : Row :=
  ⟨some "discovery", "probe_timeout_secs", .number (2 ^ 64 - 1), .number 5,
    fun configuration => .number configuration.discovery.probeTimeout⟩

/-- The key for how much the test of reading and writing copies, which must not be zero. -/
def megabytesRow : Row :=
  ⟨some "diagnostics", "rw_test_megabytes", .number (2 ^ 32 - 1), .number 10,
    fun configuration => .number configuration.diagnostics.testMegabytes⟩

theorem forall_declared_named_iff {Holds : Row → Prop} :
    (∀ row ∈ declared, row.name = "probe_timeout_secs" ∨ row.name = "rw_test_megabytes" →
      Holds row) ↔ Holds timeoutRow ∧ Holds megabytesRow := by
  simp [declared, directoryRow, parts, Part.row, discoveryFields, mountFields, formatFields,
    diagnosticFields, timeoutRow, megabytesRow]

/-- A number that must not be zero is zero only where a document gives zero for it. -/
theorem zero_iff_given (unambiguous : entries.Unambiguous) (sectioned : Sectioned entries)
    (accepted : ofEntries entries = .ok configuration) :
    (configuration.discovery.probeTimeout = 0 ↔
      ∃ span, timeoutRow.given? entries = some (.integer span 0)) ∧
    (configuration.diagnostics.testMegabytes = 0 ↔
      ∃ span, megabytesRow.given? entries = some (.integer span 0)) := by
  have holds := holds_of_ofEntries unambiguous sectioned accepted
  rcases forall_declared_named_iff.mp fun row is_declared _ => holds row is_declared with
    ⟨timeout_holds, megabytes_holds⟩
  constructor
  · rw [← timeout_holds.zero_iff rfl (by decide)]
    simp [timeoutRow]
  · rw [← megabytes_holds.zero_iff rfl (by decide)]
    simp [megabytesRow]

theorem exists_ofDocument_iff {document : String} (parsed : Toml.parse document = .ok entries)
    (sectioned : Sectioned entries) :
    (∃ configuration, ofDocument document = .ok configuration) ↔
      Fits entries ∧
      ∀ row ∈ declared, row.name = "probe_timeout_secs" ∨ row.name = "rw_test_megabytes" →
        ∀ span, row.given? entries ≠ some (.integer span 0) := by
  have unambiguous := Toml.unambiguous_of_parse parsed
  rw [forall_declared_named_iff, ← exists_ofEntries_iff unambiguous sectioned]
  constructor
  · rintro ⟨configuration, read⟩
    rcases (ofDocument_eq_ok_iff parsed).mp read with ⟨accepted, timeout, megabytes⟩
    rcases zero_iff_given unambiguous sectioned accepted with ⟨timeout_iff, megabytes_iff⟩
    exact ⟨⟨configuration, accepted⟩, fun span given => timeout (timeout_iff.mpr ⟨span, given⟩),
      fun span given => megabytes (megabytes_iff.mpr ⟨span, given⟩)⟩
  · rintro ⟨⟨configuration, accepted⟩, timeout, megabytes⟩
    rcases zero_iff_given unambiguous sectioned accepted with ⟨timeout_iff, megabytes_iff⟩
    refine ⟨configuration,
      (ofDocument_eq_ok_iff parsed).mpr ⟨accepted, fun zero => ?_, fun zero => ?_⟩⟩
    · rcases timeout_iff.mp zero with ⟨span, given⟩
      exact timeout span given
    · rcases megabytes_iff.mp zero with ⟨span, given⟩
      exact megabytes span given

theorem holds_of_ofDocument {document : String} (parsed : Toml.parse document = .ok entries)
    (sectioned : Sectioned entries) (read : ofDocument document = .ok configuration) :
    ∀ row ∈ declared, row.Holds entries configuration :=
  holds_of_ofEntries (Toml.unambiguous_of_parse parsed) sectioned
    ((ofDocument_eq_ok_iff parsed).mp read).1

/-! ## The result -/

/-- Two documents give the same for a key: nothing, or values that stand for the same. -/
def Row.Alike (row : Row) (entries others : Entries) : Prop :=
  match row.given? entries, row.given? others with
  | none, none => True
  | some value, some other => ∃ held, Reads row.kind value held ∧ Reads row.kind other held
  | _, _ => False

theorem Row.Holds.get_eq_of_alike {row : Row} {others : Entries} {other : Configuration}
    (holds : row.Holds entries configuration) (holds_other : row.Holds others other)
    (alike : row.Alike entries others) : row.get configuration = row.get other := by
  rw [Row.Holds] at holds holds_other
  rw [Row.Alike] at alike
  cases given : row.given? entries with
  | none =>
      cases other_given : row.given? others with
      | none =>
          simp only [given, other_given] at holds holds_other
          exact holds.trans holds_other.symm
      | some value => simp [given, other_given] at alike
  | some value =>
      cases other_given : row.given? others with
      | none => simp [given, other_given] at alike
      | some other_value =>
          simp only [given, other_given] at holds holds_other alike
          rcases alike with ⟨held, reads, other_reads⟩
          exact (holds.unique reads).trans (other_reads.unique holds_other)

/--
A document whose sections are tables and whose policy is a text gives a configuration if and only if
its keys are declared and its values fit, where two numbers must not be zero. The configuration has
for every declared key what the document gives, and the default where it gives nothing. For each key
it depends on what is given for that key alone. What is refused is refused as a configuration.
-/
theorem ofDocument_overlay (document : String) :
    (∀ fault, ofDocument document = .error fault →
      ∃ reason, fault.failure = .configuration reason) ∧
    ∀ entries, Toml.parse document = .ok entries → Sectioned entries →
      ((∃ configuration, ofDocument document = .ok configuration) ↔
        Fits entries ∧
        ∀ row ∈ declared, row.name = "probe_timeout_secs" ∨ row.name = "rw_test_megabytes" →
          ∀ span, row.given? entries ≠ some (.integer span 0)) ∧
      ∀ configuration, ofDocument document = .ok configuration →
        (∀ row ∈ declared, row.Holds entries configuration) ∧
        ∀ another others other, Toml.parse another = .ok others → Sectioned others →
          ofDocument another = .ok other →
          ∀ row ∈ declared, row.Alike entries others → row.get configuration = row.get other := by
  refine ⟨fun fault _ => ⟨fault.message, rfl⟩, fun entries parsed sectioned => ⟨?_, ?_⟩⟩
  · exact exists_ofDocument_iff parsed sectioned
  · intro configuration read
    have holds := holds_of_ofDocument parsed sectioned read
    refine ⟨holds, fun another others other other_parsed other_sectioned other_read => ?_⟩
    have other_holds := holds_of_ofDocument other_parsed other_sectioned other_read
    exact fun row is_declared alike =>
      (holds row is_declared).get_eq_of_alike (other_holds row is_declared) alike

/-- A document with one key: the timeout is as given, and all else as without a document. -/
theorem ofDocument_overlay_timeout :
    ∃ entries configuration,
      Toml.parse "discovery.probe_timeout_secs=7" = .ok entries ∧ Sectioned entries ∧
      ofDocument "discovery.probe_timeout_secs=7" = .ok configuration ∧ Fits entries ∧
      configuration.discovery.probeTimeout = 7 ∧
      ∀ row ∈ declared, row.name ≠ "probe_timeout_secs" →
        row.get configuration = row.default := by
  have parses : (Toml.parse "discovery.probe_timeout_secs=7").toOption.any (fun entries =>
      parts.all (fun part => (entries.get? part.name).all (·.kindWord == "table")) &&
      declared.all fun row =>
        row.name == "probe_timeout_secs" || (row.given? entries).isNone) = true := by
    decide +kernel
  have accepts : (ofDocument "discovery.probe_timeout_secs=7").toOption.any
      (·.discovery.probeTimeout == 7) = true := by
    decide +kernel
  cases parsed : Toml.parse "discovery.probe_timeout_secs=7" with
  | error fault => simp [parsed, Except.toOption] at parses
  | ok entries =>
      cases accepted : ofDocument "discovery.probe_timeout_secs=7" with
      | error fault => simp [accepted, Except.toOption] at accepts
      | ok configuration =>
          simp only [parsed, Except.toOption, Option.any_some, Bool.and_eq_true, List.all_eq_true,
            Bool.or_eq_true, beq_iff_eq, Option.isNone_iff_eq_none] at parses
          have numbers : ∀ row ∈ declared,
              row.name = "probe_timeout_secs" ∨ row.name = "rw_test_megabytes" →
                row.kind ≠ .policy :=
            forall_declared_named_iff.mpr ⟨by simp [timeoutRow], by simp [megabytesRow]⟩
          have sectioned : Sectioned entries := by
            constructor
            · intro part is_part value found
              have is_table := parses.1 part is_part
              rw [found] at is_table
              exact exists_table_of_kindWord (beq_iff_eq.mp is_table)
            · intro row is_declared is_policy value given
              rcases parses.2 row is_declared with is_timeout | absent
              · exact absurd is_policy (numbers row is_declared (.inl is_timeout))
              · rw [absent] at given
                cases given
          rcases (ofDocument_overlay _).2 entries parsed sectioned with ⟨accepted_iff, overlaid⟩
          have holds := (overlaid configuration accepted).1
          refine ⟨entries, configuration, rfl, sectioned, rfl,
            (accepted_iff.mp ⟨configuration, accepted⟩).1, ?_, fun row is_declared different => ?_⟩
          · simpa [accepted, Except.toOption] using accepts
          · have absent := (parses.2 row is_declared).resolve_left different
            have row_holds := holds row is_declared
            rwa [Row.Holds, absent] at row_holds

end TapeAdmin.Configuration
