import Mathlib.Algebra.Ring.Nat
import Mathlib.Data.List.Forall2
import Mathlib.Data.List.Nodup
import TapeAdmin.Console.Program
import TapeAdmin.Proofs.Configuration.Overlay
import TapeAdmin.Proofs.Toml.Document

/-!
# The declared keys

The keys that a configuration file may have, each with what its value must be, with what holds
without it, and with the place in the configuration where it is found.
-/

namespace TapeAdmin.Configuration

open Toml (Value Fault Entries Span)

/-! ## Values -/

/-- What the value of a key must be. -/
inductive ValueKind where
  | path
  | policy
  /-- A whole number from zero to a limit. -/
  | number (limit : Nat)
  | flag
  | texts
  deriving DecidableEq

/-- What a configuration holds for a key. -/
inductive Held where
  | path (path : Option FilePath)
  | policy (policy : DiscoveryPolicy)
  | number (number : Nat)
  | flag (flag : Bool)
  | texts (texts : List String)
  deriving DecidableEq

/-- A value is of a kind and stands for what is held. -/
inductive Reads : ValueKind → Value → Held → Prop
  | path (span : Span) (text : String) : Reads .path (.text span text) (.path (some ⟨text⟩))
  | rankAll (span : Span) : Reads .policy (.text span "rank-all") (.policy .rankAll)
  | primaryWithProbe (span : Span) :
      Reads .policy (.text span "primary-with-probe") (.policy .primaryWithProbe)
  | number (span : Span) {limit number : Nat} :
      number ≤ limit → Reads (.number limit) (.integer span number) (.number number)
  | flag (span : Span) (flag : Bool) : Reads .flag (.boolean span flag) (.flag flag)
  | texts (span : Span) (ofTables : Bool) {items : List Value} {texts : List String} :
      List.Forall₂ (fun item text => ∃ span, item = Value.text span text) items texts →
      Reads .texts (.list span ofTables items) (.texts texts)

/-- A policy is given by a text. -/
def ValueKind.Plain : ValueKind → Value → Prop
  | .policy, value => ∃ span word, value = .text span word
  | _, _ => True

variable {kind : ValueKind} {value : Value} {held other : Held}

/-- A value of a kind stands for one thing only. -/
theorem Reads.unique (reads : Reads kind value held) (reads_other : Reads kind value other) :
    held = other := by
  -- The words for the policies are literals, so the values are compared by hand.
  generalize again : value = same_value at reads_other
  cases reads with
  | path | flag =>
      cases reads_other
      cases again
      rfl
  | rankAll | primaryWithProbe =>
      cases reads_other
      all_goals first | rfl | simp at again
  | number =>
      cases reads_other
      injection again with _ same
      rw [Int.ofNat_inj.mp same]
  | texts span ofTables items_read =>
      cases reads_other with
      | texts _ _ items_read_other =>
          cases again
          have unique :
              Relator.RightUnique fun item text => ∃ span, item = Value.text span text := by
            rintro _ _ _ ⟨_, rfl⟩ ⟨_, is_text⟩
            cases is_text
            rfl
          rw [unique.forall₂ items_read items_read_other]

/-- A decoder takes the values of a kind, and makes of them what they stand for. -/
structure ValueKind.Decodes {β : Type} (kind : ValueKind) (decode : Value → Except Fault β)
    (hold : β → Held) : Prop where
  reads : ∀ ⦃value result⦄, kind.Plain value → decode value = .ok result →
    Reads kind value (hold result)
  exists_ok : ∀ ⦃value held⦄, Reads kind value held → ∃ result, decode value = .ok result

theorem decodes_path : ValueKind.path.Decodes Value.asPath fun path => .path (some path) where
  reads value path _ decoded := by
    cases value <;> cases decoded
    exact .path _ _
  exists_ok := by
    rintro _ _ ⟨⟩
    exact ⟨_, rfl⟩

theorem decodes_flag : ValueKind.flag.Decodes Value.asBoolean .flag where
  reads value flag _ decoded := by
    cases value <;> cases decoded
    exact .flag _ _
  exists_ok := by
    rintro _ _ ⟨⟩
    exact ⟨_, rfl⟩

theorem decodes_number (limit : Nat) (expected : String) :
    (ValueKind.number limit).Decodes (Value.asNumber limit expected) .number where
  reads value number _ decoded := by
    cases value with
    | integer span written =>
        rw [Value.asNumber] at decoded
        split at decoded
        · next within =>
            cases decoded
            have is_number : written = (written.toNat : Int) := by omega
            rw [is_number]
            exact .number span (by omega)
        · cases decoded
    | _ => cases decoded
  exists_ok := by
    rintro _ _ (_ | _ | _ | ⟨span, within⟩)
    exact ⟨_, if_pos ⟨Int.natCast_nonneg _, Int.ofNat_le.mpr within⟩⟩

theorem decodes_policy : ValueKind.policy.Decodes DiscoveryPolicy.ofValue .policy where
  reads value policy plain decoded := by
    rcases plain with ⟨span, word, rfl⟩
    simp only [DiscoveryPolicy.ofValue, DiscoveryPolicy.ofWord] at decoded
    split at decoded
    · next found =>
        cases decoded
        have is_word := List.find?_some found
        rw [← beq_iff_eq.mp is_word]
        cases policy
        · exact .rankAll span
        · exact .primaryWithProbe span
    · cases decoded
  exists_ok := by
    rintro _ _ (_ | _ | _)
    · exact ⟨.rankAll, rfl⟩
    · exact ⟨.primaryWithProbe, rfl⟩

theorem mapM_asText_eq_ok_iff {items : List Value} {texts : List String} {expected : String} :
    (items.mapM fun item => item.asText expected) = .ok texts ↔
      List.Forall₂ (fun item text => ∃ span, item = Value.text span text) items texts := by
  induction items generalizing texts with
  | nil =>
      rw [List.mapM_nil, List.forall₂_nil_left_iff]
      exact ⟨fun read => (Except.ok.inj read).symm, fun empty => empty ▸ rfl⟩
  | cons item items ih =>
      rw [List.mapM_cons, List.forall₂_cons_left_iff]
      constructor
      · intro read
        rcases exists_of_bind_ok read with ⟨text, is_text, read⟩
        rcases exists_of_bind_ok read with ⟨others, others_read, read⟩
        cases read
        cases item <;> cases is_text
        exact ⟨text, others, ⟨_, rfl⟩, ih.mp others_read, rfl⟩
      · rintro ⟨text, others, ⟨span, rfl⟩, others_read, rfl⟩
        rw [ih.mpr others_read]
        rfl

theorem decodes_texts : ValueKind.texts.Decodes Value.asTexts .texts where
  reads value texts _ decoded := by
    cases value with
    | list span ofTables items => exact .texts span ofTables (mapM_asText_eq_ok_iff.mp decoded)
    | _ => cases decoded
  exists_ok := by
    rintro _ _ (_ | _ | _ | _ | _ | ⟨_, _, read⟩)
    exact ⟨_, mapM_asText_eq_ok_iff.mpr read⟩

/-! ## Fields -/

/-- A declared key: what its value must be, what is held without it, and where that is found. -/
structure Field (α : Type) where
  name : String
  kind : ValueKind
  default : Held
  get : α → Held

/-- The declared keys of the section on scans. -/
def discoveryFields : List (Field DiscoverySettings) := [
  ⟨"policy", .policy, .policy .rankAll, fun settings => .policy settings.policy⟩,
  ⟨"primary_device", .path, .path none, fun settings => .path settings.primaryDevice⟩,
  ⟨"probe_timeout_secs", .number (2 ^ 64 - 1), .number 5,
    fun settings => .number settings.probeTimeout⟩]

/-- The declared keys of the section on mounting. -/
def mountFields : List (Field MountSettings) := [
  ⟨"default_mount_point", .path, .path (some ⟨"/mnt/ltfs"⟩),
    fun settings => .path (some settings.defaultMountPoint)⟩,
  ⟨"options", .texts, .texts [], fun settings => .texts settings.options⟩,
  ⟨"rewind_before_mount", .flag, .flag true, fun settings => .flag settings.rewindBeforeMount⟩]

/-- The declared key of the section on formatting. -/
def formatFields : List (Field FormatSettings) := [
  ⟨"quantum_block_size", .number (2 ^ 32 - 1), .number 65536,
    fun settings => .number settings.quantumBlockSize⟩]

/-- The declared keys of the section on diagnostics. -/
def diagnosticFields : List (Field DiagnosticSettings) := [
  ⟨"load_settle_secs", .number (2 ^ 64 - 1), .number 5,
    fun settings => .number settings.loadSettle⟩,
  ⟨"rw_test_megabytes", .number (2 ^ 32 - 1), .number 10,
    fun settings => .number settings.testMegabytes⟩,
  ⟨"log_pages", .texts, .texts ["0x02", "0x03", "0x06", "0x0c", "0x0d", "0x0e", "0x0f"],
    fun settings => .texts settings.logPages⟩]

namespace Field

variable {α β : Type}

/-- A setting sets a field, from all values of its kind. -/
structure IsSetBy (field : Field α) (setting : Setting α) : Prop where
  name : setting.name = field.name
  reads : ∀ ⦃current value next⦄, field.kind.Plain value → setting.set current value = .ok next →
    Reads field.kind value (field.get next)
  accepts : ∀ ⦃value held⦄, Reads field.kind value held → setting.Accepts value
  steady : setting.Steady

/-- A setting leaves a field as it is. -/
def IsSparedBy (field : Field α) (setting : Setting α) : Prop :=
  ∀ ⦃current value next⦄, setting.set current value = .ok next → field.get next = field.get current

variable {field : Field α} {decode : Value → Except Fault β} {store : α → β → α} {hold : β → Held}

theorem isSetBy_of (decodes : field.kind.Decodes decode hold)
    (get_store : ∀ current result, field.get (store current result) = hold result) :
    field.IsSetBy (.of field.name decode store) where
  name := rfl
  reads current value next plain set := by
    rcases Setting.set_of_eq_ok_iff.mp set with ⟨result, decoded, rfl⟩
    rw [get_store]
    exact decodes.reads plain decoded
  accepts value held reads := Setting.accepts_of (decodes.exists_ok reads)
  steady := Setting.steady_of

theorem isSparedBy_of {name : String}
    (get_store : ∀ current result, field.get (store current result) = field.get current) :
    field.IsSparedBy (.of name decode store) := by
  intro current value next set
  rcases Setting.set_of_eq_ok_iff.mp set with ⟨result, -, rfl⟩
  exact get_store current result

end Field

/-- The fields that settings set are declared, in the same order. -/
structure Describes {α : Type} (fields : List (Field α)) (settings : List (Setting α)) : Prop where
  paired : List.Forall₂ Field.IsSetBy fields settings
  spared : ∀ field ∈ fields, ∀ setting ∈ settings, setting.name ≠ field.name →
    field.IsSparedBy setting
  distinct : (fields.map Field.name).Nodup

theorem exists_mem_of_forall₂ {γ δ : Type} {Related : γ → δ → Prop} {first : List γ}
    {second : List δ} (related : List.Forall₂ Related first second) {member : γ}
    (present : member ∈ first) : ∃ partner ∈ second, Related member partner := by
  induction related with
  | nil => cases present
  | cons heads _ ih =>
      rcases List.mem_cons.mp present with rfl | present
      · exact ⟨_, List.mem_cons_self, heads⟩
      · rcases ih present with ⟨partner, partner_present, is_partner⟩
        exact ⟨partner, List.mem_cons_of_mem _ partner_present, is_partner⟩

namespace Describes

variable {α : Type} {fields : List (Field α)} {settings : List (Setting α)} {field : Field α}
  {setting : Setting α} {initial result : α} {entries : Entries}

/-- The setting with the name of a field is the one that sets it. -/
theorem isSetBy (describes : Describes fields settings) (declared : field ∈ fields)
    (present : setting ∈ settings) (named : setting.name = field.name) : field.IsSetBy setting := by
  rcases exists_mem_of_forall₂ describes.paired.flip present with ⟨other, other_declared, sets⟩
  have same_name : other.name = field.name := sets.name.symm.trans named
  rwa [List.inj_on_of_nodup_map describes.distinct other_declared declared same_name] at sets

theorem governs (describes : Describes fields settings) (declared : field ∈ fields) :
    Setting.Governs settings field.name field.get fun value held =>
      field.kind.Plain value → Reads field.kind value held := by
  intro setting present current value next set
  split
  · next named =>
      exact fun plain => (describes.isSetBy declared present named).reads plain set
  · next different => exact describes.spared field declared setting present different set

/-- The values that the setting of a name takes are those of the kind of the field. -/
theorem exists_find?_iff (describes : Describes fields settings) (initial : α) {name : String}
    {value : Value} (plain : ∀ field ∈ fields, field.name = name → field.kind.Plain value) :
    (∃ setting, Setting.find? settings name = some setting ∧ setting.Accepts value) ↔
      ∃ field ∈ fields, field.name = name ∧ ∃ held, Reads field.kind value held := by
  constructor
  · rintro ⟨setting, found, accepts⟩
    rcases Setting.mem_of_find? found with ⟨present, rfl⟩
    rcases exists_mem_of_forall₂ describes.paired.flip present with ⟨field, declared, sets⟩
    rcases accepts initial with ⟨next, set⟩
    exact ⟨field, declared, sets.name.symm, field.get next,
      sets.reads (plain field declared sets.name.symm) set⟩
  · rintro ⟨field, declared, rfl, held, reads⟩
    rcases exists_mem_of_forall₂ describes.paired declared with ⟨setting, present, sets⟩
    cases found : Setting.find? settings field.name with
    | none =>
        have missing := List.find?_eq_none.mp found setting present
        exact absurd (beq_iff_eq.mpr sets.name) missing
    | some other =>
        rcases Setting.mem_of_find? found with ⟨other_present, named⟩
        exact ⟨other, rfl, (describes.isSetBy declared other_present named).accepts reads⟩

theorem exists_overlay_iff (describes : Describes fields settings)
    (plain : ∀ entry ∈ entries, ∀ field ∈ fields, field.name = entry.1.text →
      field.kind.Plain entry.2) :
    (∃ result, Setting.overlay settings initial entries = .ok result) ↔
      ∀ entry ∈ entries, ∃ field ∈ fields, field.name = entry.1.text ∧
        ∃ held, Reads field.kind entry.2 held := by
  have steady : ∀ setting ∈ settings, setting.Steady := by
    intro setting present
    rcases exists_mem_of_forall₂ describes.paired.flip present with ⟨field, -, sets⟩
    exact sets.steady
  rw [Setting.exists_overlay_iff steady]
  exact forall₂_congr fun entry present => describes.exists_find?_iff initial (plain entry present)

end Describes

theorem describes_discovery : Describes discoveryFields discoverySettings where
  paired := .cons (Field.isSetBy_of decodes_policy fun _ _ => rfl)
    (.cons (Field.isSetBy_of decodes_path fun _ _ => rfl)
      (.cons (Field.isSetBy_of (decodes_number _ _) fun _ _ => rfl) .nil))
  spared := by
    simp [discoveryFields, discoverySettings, Setting.name_of, Field.isSparedBy_of]
  distinct := by decide

theorem describes_mount : Describes mountFields mountSettings where
  paired := .cons (Field.isSetBy_of decodes_path fun _ _ => rfl)
    (.cons (Field.isSetBy_of decodes_texts fun _ _ => rfl)
      (.cons (Field.isSetBy_of decodes_flag fun _ _ => rfl) .nil))
  spared := by
    simp [mountFields, mountSettings, Setting.name_of, Field.isSparedBy_of]
  distinct := by decide

theorem describes_format : Describes formatFields formatSettings where
  paired := .cons (Field.isSetBy_of (decodes_number _ _) fun _ _ => rfl) .nil
  spared := by
    simp [formatFields, formatSettings, Setting.name_of]
  distinct := by decide

theorem describes_diagnostics : Describes diagnosticFields diagnosticSettings where
  paired := .cons (Field.isSetBy_of (decodes_number _ _) fun _ _ => rfl)
    (.cons (Field.isSetBy_of (decodes_number _ _) fun _ _ => rfl)
      (.cons (Field.isSetBy_of decodes_texts fun _ _ => rfl) .nil))
  spared := by
    simp [diagnosticFields, diagnosticSettings, Setting.name_of, Field.isSparedBy_of]
  distinct := by decide

end TapeAdmin.Configuration
