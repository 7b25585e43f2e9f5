import TapeAdmin.Configuration.Reading
import TapeAdmin.Proofs.Result
import TapeAdmin.Proofs.Toml.Table

/-!
# Laying entries over settings

Entries are laid over settings one after the other, so what has become of one part of the settings
is a matter of the one entry that governs it: the part is as it was if the entry is missing, and
what the value of the entry means otherwise. The whole is accepted if and only if every entry is,
since no entry makes another one more or less acceptable.
-/

namespace TapeAdmin.Setting

open Toml (Value Fault Entries Key)

variable {α β : Type} {settings : List (Setting α)} {initial result : α} {entries : Entries}

/-! ## Accepted entries -/

/-- A value that a setting takes, whatever was set before. -/
def Accepts (setting : Setting α) (value : Value) : Prop :=
  ∀ current, ∃ next, setting.set current value = .ok next

/-- What was set before does not matter to which values a setting takes. -/
def Steady (setting : Setting α) : Prop :=
  ∀ ⦃current value next⦄, setting.set current value = .ok next → setting.Accepts value

section Of

variable {name : String} {decode : Value → Except Fault β} {store : α → β → α} {value : Value}

theorem name_of : (Setting.of name decode store).name = name := rfl

theorem set_of_eq_ok_iff {current next : α} :
    (Setting.of name decode store).set current value = .ok next ↔
      ∃ held, decode value = .ok held ∧ store current held = next :=
  map_eq_ok_iff

theorem accepts_of (decodes : ∃ held, decode value = .ok held) :
    (Setting.of name decode store).Accepts value := by
  rcases decodes with ⟨held, decoded⟩
  exact fun current => ⟨store current held, set_of_eq_ok_iff.mpr ⟨held, decoded, rfl⟩⟩

theorem steady_of : (Setting.of name decode store).Steady := by
  intro current value next set
  rcases set_of_eq_ok_iff.mp set with ⟨held, decoded, -⟩
  exact accepts_of ⟨held, decoded⟩

end Of

theorem mem_of_find? {name : String} {setting : Setting α}
    (found : find? settings name = some setting) : setting ∈ settings ∧ setting.name = name := by
  have named := List.find?_some found
  exact ⟨List.mem_of_find?_eq_some found, by simpa using named⟩

/-- Entries that can be laid over settings are laid over them one by one. -/
theorem overlay_cons_eq_ok_iff {key : Key} {value : Value} :
    overlay settings initial ((key, value) :: entries) = .ok result ↔
      ∃ setting next, find? settings key.text = some setting ∧
        setting.set initial value = .ok next ∧ overlay settings next entries = .ok result := by
  rw [overlay, List.foldlM_cons]
  constructor
  · intro overlaid
    rcases exists_of_bind_ok overlaid with ⟨next, set, overlaid⟩
    dsimp only at set
    split at set
    · next setting found => exact ⟨setting, next, found, set, overlaid⟩
    · cases set
  · rintro ⟨setting, next, found, set, overlaid⟩
    simp only [found, set]
    exact overlaid

theorem exists_overlay_iff (steady : ∀ setting ∈ settings, setting.Steady) :
    (∃ result, overlay settings initial entries = .ok result) ↔
      ∀ entry ∈ entries, ∃ setting, find? settings entry.1.text = some setting ∧
        setting.Accepts entry.2 := by
  induction entries generalizing initial with
  | nil => exact ⟨fun _ _ present => (nomatch present), fun _ => ⟨initial, rfl⟩⟩
  | cons entry entries ih =>
      rcases entry with ⟨key, value⟩
      simp only [overlay_cons_eq_ok_iff, List.forall_mem_cons]
      constructor
      · rintro ⟨result, setting, next, found, set, overlaid⟩
        have accepts := steady setting (mem_of_find? found).1 set
        exact ⟨⟨setting, found, accepts⟩, ih.mp ⟨result, overlaid⟩⟩
      · rintro ⟨⟨setting, found, accepts⟩, others⟩
        rcases accepts initial with ⟨next, set⟩
        rcases ih.mpr others with ⟨result, overlaid⟩
        exact ⟨result, setting, next, found, set, overlaid⟩

/-! ## What is set -/

/-- One part of the settings is set by the key of a name, to what the value means, and by no other
key. -/
def Governs (settings : List (Setting α)) (name : String) (get : α → β)
    (Means : Value → β → Prop) : Prop :=
  ∀ setting ∈ settings, ∀ ⦃current value next⦄, setting.set current value = .ok next →
    if setting.name = name then Means value (get next) else get next = get current

namespace Governs

variable {name : String} {get : α → β} {Means : Value → β → Prop}

theorem overlay_absent (governs : Governs settings name get Means)
    (absent : entries.get? name = none) (overlaid : overlay settings initial entries = .ok result) :
    get result = get initial := by
  induction entries generalizing initial with
  | nil =>
      cases overlaid
      rfl
  | cons entry entries ih =>
      rcases entry with ⟨key, value⟩
      rcases overlay_cons_eq_ok_iff.mp overlaid with ⟨setting, next, found, set, overlaid⟩
      rcases mem_of_find? found with ⟨present, named⟩
      have different : key.text ≠ name := by
        intro same
        rw [← same, Toml.Entries.get?_cons_self] at absent
        cases absent
      have unchanged := governs setting present set
      rw [if_neg (named ▸ different)] at unchanged
      rw [Toml.Entries.get?_cons_of_ne different] at absent
      exact (ih absent overlaid).trans unchanged

theorem overlay_present (governs : Governs settings name get Means) (distinct : entries.keys.Nodup)
    {value : Value} (present : entries.get? name = some value)
    (overlaid : overlay settings initial entries = .ok result) : Means value (get result) := by
  induction entries generalizing initial with
  | nil => cases present
  | cons entry entries ih =>
      rcases entry with ⟨key, first⟩
      rcases overlay_cons_eq_ok_iff.mp overlaid with ⟨setting, next, found, set, others_overlaid⟩
      rcases mem_of_find? found with ⟨is_setting, named⟩
      have fresh := List.nodup_cons.mp distinct
      by_cases same : key.text = name
      · -- The remaining entries have other keys, so the first one has the last word.
        subst same
        rw [Toml.Entries.get?_cons_self] at present
        cases present
        rw [governs.overlay_absent (Toml.Entries.get?_eq_none_iff.mpr fresh.1) others_overlaid]
        have means := governs setting is_setting set
        rwa [if_pos named] at means
      · rw [Toml.Entries.get?_cons_of_ne same] at present
        exact ih fresh.2 present others_overlaid

end Governs

end TapeAdmin.Setting
