import TapeAdmin.Configuration.Settings
import TapeAdmin.File.System
import TapeAdmin.Text.Quoted
import TapeAdmin.Text.Shortest
import TapeAdmin.Toml.Document

/-!
# Reading the configuration

A configuration file lays the values it has over the defaults. Sections are tables with known keys;
a section may also be a list of its values in the order of the keys. Unknown keys, values of the
wrong type and numbers out of range are refused.
-/

namespace TapeAdmin

namespace Toml.Value

/-- A value in messages about its type. -/
def description : Value → String
  | .text _ content => "string " ++ Text.quoted content
  | .integer _ number => "integer `" ++ toString number ++ "`"
  | .float _ number => "floating point `" ++ number.shortest ++ "`"
  | .boolean _ value => "boolean `" ++ toString value ++ "`"
  | .list .. => "sequence"
  | .moment .. | .table .. => "map"

/-- The fault of a value that is not of the expected type. -/
def wrongType (value : Value) (expected : String) : Fault :=
  ⟨value.span, "invalid type: " ++ value.description ++ ", expected " ++ expected⟩

/-- The fault of a value of the right type that is out of range. -/
def outOfRange (value : Value) (expected : String) : Fault :=
  ⟨value.span, "invalid value: " ++ value.description ++ ", expected " ++ expected⟩

/-- A value that must be a text. -/
def asText (value : Value) (expected : String) : Except Fault String :=
  match value with
  | .text _ content => .ok content
  | other => .error (other.wrongType expected)

/-- A value that must be a path. -/
def asPath (value : Value) : Except Fault FilePath :=
  (value.asText "path string").map FilePath.mk

/-- A value that must be true or false. -/
def asBoolean (value : Value) : Except Fault Bool :=
  match value with
  | .boolean _ value => .ok value
  | other => .error (other.wrongType "a boolean")

/-- A value that must be a whole number from zero to a limit. -/
def asNumber (limit : Nat) (expected : String) (value : Value) : Except Fault Nat :=
  match value with
  | .integer span number =>
    if 0 ≤ number ∧ number ≤ limit then .ok number.toNat
    else .error ((Value.integer span number).outOfRange expected)
  | other => .error (other.wrongType expected)

/-- A value that must be a list of texts. -/
def asTexts (value : Value) : Except Fault (List String) :=
  match value with
  | .list _ _ items => items.mapM fun item => item.asText "a string"
  | other => .error (other.wrongType "a sequence")

/-- A list of words in a message. -/
def alternatives (words : List String) : String :=
  let quoted := words.map fun word => "`" ++ word ++ "`"
  match quoted with
  | [] => "there are no fields"
  | [word] => "expected " ++ word
  | [word, other] => "expected " ++ word ++ " or " ++ other
  | words => "expected one of " ++ String.intercalate ", " words

/-- Whether a value holds nothing, as the value of a word that takes none must. -/
def isHollow : Value → Bool
  | .list _ _ items => items.isEmpty
  | .table _ _ entries => entries.isEmpty
  | _ => false

end Toml.Value

open Toml (Value Fault Entries)

namespace DiscoveryPolicy

/-- The policy that a word names. -/
def ofWord (span : Toml.Span) (word : String) : Except Fault DiscoveryPolicy :=
  match [rankAll, primaryWithProbe].find? fun policy => policy.word == word with
  | some policy => .ok policy
  | none =>
    .error ⟨span, "unknown variant `" ++ word ++ "`, " ++
      Value.alternatives ([rankAll, primaryWithProbe].map DiscoveryPolicy.word)⟩

/-- A value that must name a policy: its word, or a table with nothing under that word. -/
def ofValue (value : Value) : Except Fault DiscoveryPolicy :=
  match value with
  | .text span word => ofWord span word
  | .table span _ [] => .error ⟨span, "wanted exactly 1 element, found 0 elements"⟩
  | .table span _ [(key, inner)] => do
    let policy ← ofWord key.span key.text
    if inner.isHollow then .ok policy
    else
      match inner with
      | .list innerSpan _ _ => .error ⟨innerSpan, "expected empty array"⟩
      | .table innerSpan origin _ =>
        .error ⟨if origin.isImplied then span else innerSpan, "expected empty table"⟩
      | other => .error ⟨other.span, "expected table, found " ++ other.kindWord⟩
  | .table span _ _ => .error ⟨span, "wanted exactly 1 element, more than 1 element"⟩
  | other => .error ⟨other.span, "wanted string or table"⟩

end DiscoveryPolicy

/-- A key of a section, and what its value sets. -/
structure Setting (α : Type) where
  name : String
  set : α → Value → Except Fault α

namespace Setting

/-- A key whose value is decoded and then stored. -/
def of {α β : Type} (name : String) (decode : Value → Except Fault β) (store : α → β → α) :
    Setting α where
  name := name
  set settings value := (decode value).map (store settings)

variable {α : Type}

/-- The setting with a name. -/
def find? (settings : List (Setting α)) (name : String) : Option (Setting α) :=
  settings.find? fun setting => setting.name == name

/-- The fault of a key at a place that is none of those of the settings. -/
def unknown (settings : List (Setting α)) (span : Toml.Span) (key : String) : Fault :=
  ⟨span, "unknown field `" ++ key ++ "`, " ++ Value.alternatives (settings.map Setting.name)⟩

/-- Lays the entries of a table over settings. -/
def overlay (settings : List (Setting α)) (initial : α) (entries : Entries) : Except Fault α :=
  entries.foldlM (fun current (key, value) =>
    match find? settings key.text with
    | some setting => setting.set current value
    | none => .error (unknown settings key.span key.text)) initial

/-- Lays the items of a list over settings in order; further items are ignored. -/
def overlayList (settings : List (Setting α)) (initial : α) (items : List Value) :
    Except Fault α :=
  (settings.zip items).foldlM (fun current (setting, value) => setting.set current value) initial

/-- The key that a date or a time has where a table is due. -/
def momentKey : String := "$__toml_private_datetime"

/-- Lays a section over its defaults. -/
def ofSection (settings : List (Setting α)) (initial : α) (expected : String) (value : Value) :
    Except Fault α :=
  match value with
  | .table _ _ entries => overlay settings initial entries
  | .list _ _ items => overlayList settings initial items
  | .moment span _ => .error (unknown settings span momentKey)
  | other => .error (other.wrongType expected)

end Setting

namespace Configuration

/-- The limit of numbers of seconds. -/
def longLimit : Nat := UInt64.size - 1

/-- The limit of sizes. -/
def wordLimit : Nat := UInt32.size - 1

/-- The keys of the section on scans. -/
def discoverySettings : List (Setting DiscoverySettings) := [
  .of "policy" DiscoveryPolicy.ofValue fun settings policy => { settings with policy := policy },
  .of "primary_device" Value.asPath fun settings path =>
    { settings with primaryDevice := some path },
  .of "probe_timeout_secs" (Value.asNumber longLimit "u64") fun settings seconds =>
    { settings with probeTimeout := seconds }]

/-- The keys of the section on mounting. -/
def mountSettings : List (Setting MountSettings) := [
  .of "default_mount_point" Value.asPath fun settings path =>
    { settings with defaultMountPoint := path },
  .of "options" Value.asTexts fun settings options => { settings with options := options },
  .of "rewind_before_mount" Value.asBoolean fun settings rewind =>
    { settings with rewindBeforeMount := rewind }]

/-- The keys of the section on formatting. -/
def formatSettings : List (Setting FormatSettings) := [
  .of "quantum_block_size" (Value.asNumber wordLimit "u32") fun _ size =>
    { quantumBlockSize := size }]

/-- The keys of the section on diagnostics. -/
def diagnosticSettings : List (Setting DiagnosticSettings) := [
  .of "load_settle_secs" (Value.asNumber longLimit "u64") fun settings seconds =>
    { settings with loadSettle := seconds },
  .of "rw_test_megabytes" (Value.asNumber wordLimit "u32") fun settings megabytes =>
    { settings with testMegabytes := megabytes },
  .of "log_pages" Value.asTexts fun settings pages => { settings with logPages := pages }]

/-- The keys of the file, most of which are sections. -/
def settings : List (Setting Configuration) := [
  .of "device_dir" Value.asPath fun settings path => { settings with deviceDirectory := path },
  .of "discovery" (Setting.ofSection discoverySettings {} "struct DiscoveryConfig")
    fun settings discovery => { settings with discovery := discovery },
  .of "mount" (Setting.ofSection mountSettings {} "struct MountConfig")
    fun settings mount => { settings with mount := mount },
  .of "format" (Setting.ofSection formatSettings {} "struct FormatConfig")
    fun settings format => { settings with format := format },
  .of "diagnostics" (Setting.ofSection diagnosticSettings {} "struct DiagnosticsConfig")
    fun settings diagnostics => { settings with diagnostics := diagnostics }]

/-- Why there is no configuration. -/
inductive LoadFault where
  | unreadable (path : FilePath) (error : SystemError)
  /-- The document is malformed or does not fit, with the text that shows where. -/
  | document (text : String)
  | zeroProbeTimeout
  | zeroTestMegabytes
  deriving Repr

/-- The wording of a load fault. -/
def LoadFault.message : LoadFault → String
  | .unreadable path error => "cannot read " ++ path.text ++ ": " ++ error.message
  | .document text => text
  | .zeroProbeTimeout => "discovery.probe_timeout_secs must be greater than zero"
  | .zeroTestMegabytes => "diagnostics.rw_test_megabytes must be greater than zero"

/-- Refuses settings with which the program could not work. -/
def check (configuration : Configuration) : Except LoadFault Configuration :=
  if configuration.discovery.probeTimeout = 0 then .error .zeroProbeTimeout
  else if configuration.diagnostics.testMegabytes = 0 then .error .zeroTestMegabytes
  else .ok configuration

/-- The configuration that the entries of a document describe. -/
def ofEntries (entries : Entries) : Except Fault Configuration :=
  Setting.overlay settings {} entries

/-- The configuration that a document describes. -/
def ofDocument (document : String) : Except LoadFault Configuration :=
  match Toml.parse document >>= ofEntries with
  | .error fault => .error (.document (fault.render document))
  | .ok configuration => configuration.check

/-- The configuration in a file. -/
def ofFile (files : FileSystem) (path : FilePath) : Except LoadFault Configuration :=
  match files.readText path with
  | .error error => .error (.unreadable path error)
  | .ok document => ofDocument document

/-- The configuration for a run: that of the file given by the operator, which must exist, else that
of the user's own file if there is one, else the defaults. -/
def load (files : FileSystem) (given : Option FilePath) (own : FilePath) :
    Except LoadFault Configuration :=
  match given with
  | some path => ofFile files path
  | none => if files.isFile own then ofFile files own else .ok {}

end Configuration

end TapeAdmin
