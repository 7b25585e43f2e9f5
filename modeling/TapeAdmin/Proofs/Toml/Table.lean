import TapeAdmin.Proofs.Result
import TapeAdmin.Toml.Table

/-!
# Tables without repeated keys

What is found under the keys of a table, and that no addition to a table makes a key stand twice in
it or in a table inside it. Lines are therefore free to add to a table in any of the ways there are:
each value of the table stays the value of one key.
-/

namespace TapeAdmin.Toml

namespace Entries

/-- The texts of the keys, in order. -/
def keys (entries : Entries) : List String :=
  entries.map fun entry => entry.1.text

/-! ## Looking up a key -/


theorem get?_cons_self (key : Key) (value : Value) (entries : Entries) :
    Entries.get? ((key, value) :: entries) key.text = some value := by
  simp [get?]

theorem get?_cons_of_ne {key : Key} {name : String} (different : key.text ≠ name) (value : Value)
    (entries : Entries) : Entries.get? ((key, value) :: entries) name = entries.get? name := by
  simp [get?, different]

theorem get?_eq_none_iff {entries : Entries} {name : String} :
    entries.get? name = none ↔ name ∉ entries.keys := by
  simp [get?, keys]

theorem mem_of_get? {entries : Entries} {name : String} {value : Value}
    (found : entries.get? name = some value) :
    ∃ key : Key, key.text = name ∧ (key, value) ∈ entries := by
  rcases Option.map_eq_some_iff.mp found with ⟨⟨key, _⟩, isFound, rfl⟩
  have named := List.find?_some isFound
  exact ⟨key, by simpa using named, List.mem_of_find?_eq_some isFound⟩

/-- In a table without repeated keys every entry is found under its key. -/
theorem get?_eq_some_of_mem {entries : Entries} (distinct : entries.keys.Nodup) {key : Key}
    {value : Value} (present : (key, value) ∈ entries) :
    entries.get? key.text = some value := by
  induction entries with
  | nil => simp at present
  | cons entry entries ih =>
      have fresh := List.nodup_cons.mp distinct
      rcases List.mem_cons.mp present with rfl | present
      · exact get?_cons_self key value entries
      · have different : entry.1.text ≠ key.text := fun same =>
          fresh.1 (List.mem_map.mpr ⟨_, present, same.symm⟩)
        rw [get?_cons_of_ne different]
        exact ih fresh.2 present

/-! ## Additions -/

@[simp]
theorem keys_replace (entries : Entries) (key : Key) (value : Value) :
    (entries.replace key value).keys = entries.keys := by
  simp only [keys, replace, List.map_map]
  refine List.map_congr_left fun entry _ => ?_
  simp only [Function.comp_apply]
  split <;> rfl

end Entries

/-- A value in which no table, at any depth, has a key twice. -/
inductive Value.Unambiguous : Value → Prop
  | text (span : Span) (content : String) : Unambiguous (.text span content)
  | integer (span : Span) (number : Int) : Unambiguous (.integer span number)
  | float (span : Span) (number : Text.Double) : Unambiguous (.float span number)
  | boolean (span : Span) (value : Bool) : Unambiguous (.boolean span value)
  | moment (span : Span) (written : String) : Unambiguous (.moment span written)
  | list (span : Span) (ofTables : Bool) {items : List Value} :
      (∀ item ∈ items, Unambiguous item) → Unambiguous (.list span ofTables items)
  | table (span : Span) (origin : TableOrigin) {entries : Entries} :
      entries.keys.Nodup → (∀ entry ∈ entries, Unambiguous entry.2) →
      Unambiguous (.table span origin entries)

/-- Entries in which no key, at any depth, is there twice. -/
structure Entries.Unambiguous (entries : Entries) : Prop where
  distinct : entries.keys.Nodup
  values : ∀ entry ∈ entries, entry.2.Unambiguous

namespace Value.Unambiguous

variable {span stretched : Span} {origin : TableOrigin} {entries : Entries} {ofTables : Bool}
  {items kept : List Value} {item : Value}

theorem inside (unambiguous : (Value.table span origin entries).Unambiguous) :
    entries.Unambiguous := by
  cases unambiguous with
  | table _ _ distinct values => exact ⟨distinct, values⟩

theorem of_mem (unambiguous : (Value.list span ofTables items).Unambiguous)
    (present : item ∈ items) : item.Unambiguous := by
  cases unambiguous with
  | list _ _ unambiguous_items => exact unambiguous_items item present

/-- Some items of a list with one more behind them. -/
theorem concat (unambiguous : (Value.list span ofTables items).Unambiguous) (subset : kept ⊆ items)
    (unambiguous_item : item.Unambiguous) :
    (Value.list stretched ofTables (kept ++ [item])).Unambiguous := by
  refine .list stretched ofTables fun other present => ?_
  rcases List.mem_append.mp present with present | present
  · exact unambiguous.of_mem (subset present)
  · rw [List.mem_singleton.mp present]
    exact unambiguous_item

end Value.Unambiguous

namespace Entries

theorem unambiguous_nil : Entries.Unambiguous [] :=
  ⟨List.nodup_nil, by simp⟩

variable {entries : Entries} {key : Key} {value : Value} {name : String}

theorem Unambiguous.table {span : Span} {origin : TableOrigin} (unambiguous : entries.Unambiguous) :
    (Value.table span origin entries).Unambiguous :=
  .table span origin unambiguous.distinct unambiguous.values

theorem Unambiguous.value_of_get? (unambiguous : entries.Unambiguous)
    (found : entries.get? name = some value) : value.Unambiguous := by
  rcases mem_of_get? found with ⟨key, -, present⟩
  exact unambiguous.values _ present

theorem Unambiguous.append (unambiguous : entries.Unambiguous) (fresh : key.text ∉ entries.keys)
    (unambiguous_value : value.Unambiguous) :
    Entries.Unambiguous (entries ++ [(key, value)]) := by
  constructor
  · simp only [keys, List.map_append, List.map_cons, List.map_nil]
    refine List.nodup_append.mpr ⟨unambiguous.distinct, by simp, ?_⟩
    intro name present other is_key same
    rw [same, List.mem_singleton.mp is_key] at present
    exact fresh present
  · intro entry present
    rcases List.mem_append.mp present with present | present
    · exact unambiguous.values entry present
    · rw [List.mem_singleton.mp present]
      exact unambiguous_value

theorem Unambiguous.replace (unambiguous : entries.Unambiguous)
    (unambiguous_value : value.Unambiguous) : (entries.replace key value).Unambiguous := by
  constructor
  · rw [keys_replace]
    exact unambiguous.distinct
  · intro entry present
    rcases List.mem_map.mp present with ⟨old, old_present, rfl⟩
    split
    · exact unambiguous_value
    · exact unambiguous.values old old_present

theorem Unambiguous.without (unambiguous : entries.Unambiguous) (test : Key × Value → Bool) :
    Entries.Unambiguous (entries.filter test) :=
  ⟨unambiguous.distinct.sublist (List.filter_sublist.map _),
    fun entry present => unambiguous.values entry (List.mem_filter.mp present).1⟩

/-- A change that makes no key stand twice. -/
def Change.Keeps (change : Change) : Prop :=
  ∀ ⦃origin entries result⦄, change origin entries = .ok result →
    Entries.Unambiguous entries → Entries.Unambiguous result

/-- What is changed at the end of a path changes the tables on the way in one key each. -/
theorem keeps_changeAt {place : PathPlace} {change : Change} (keeps : change.Keeps)
    (path passed : List Key) : Change.Keeps (changeAt place change passed path) := by
  induction path generalizing passed with
  | nil => exact keeps
  | cons key path ih =>
      intro origin entries result changed unambiguous
      rw [changeAt] at changed
      dsimp only at changed
      split at changed
      · next missing =>
          rcases exists_of_bind_ok changed with ⟨inner, inner_changed, changed⟩
          cases changed
          have unambiguous_inner := ih _ inner_changed unambiguous_nil
          exact unambiguous.append (get?_eq_none_iff.mp missing) unambiguous_inner.table
      · next span origin inner found =>
          split at changed
          · cases changed
          · split at changed
            · cases changed
            · rcases exists_of_bind_ok changed with ⟨inner, inner_changed, changed⟩
              cases changed
              have unambiguous_inner := ih _ inner_changed (unambiguous.value_of_get? found).inside
              exact unambiguous.replace unambiguous_inner.table
      · next span items found =>
          have unambiguous_items := unambiguous.value_of_get? found
          split at changed
          · next is_last =>
              rcases exists_of_bind_ok changed with ⟨inner, inner_changed, changed⟩
              cases changed
              have unambiguous_inner :=
                ih _ inner_changed (unambiguous_items.of_mem (List.mem_of_getLast? is_last)).inside
              exact unambiguous.replace
                (unambiguous_items.concat (List.dropLast_subset items) unambiguous_inner.table)
          · cases changed
      · cases changed

theorem keeps_add (nested : Bool) (unambiguous_value : value.Unambiguous) (message : String) :
    Change.Keeps (add nested key value message) := by
  intro origin entries result added unambiguous
  rw [add] at added
  split at added
  · cases added
  · split at added
    · cases added
    · next missing =>
        cases added
        rw [Option.not_isSome_iff_eq_none, get?_eq_none_iff] at missing
        exact unambiguous.append missing unambiguous_value

theorem keeps_addDotted (place : PathPlace) (path : List Key)
    (unambiguous_value : value.Unambiguous) (message : String) :
    Change.Keeps (addDotted place path key value message) :=
  keeps_changeAt (keeps_add _ unambiguous_value message) path []

theorem keeps_openTable (span : Span) (path : List Key) (key : Key) :
    Change.Keeps (openTable span path key) := by
  refine keeps_changeAt ?_ path []
  intro origin entries result opened unambiguous
  dsimp only at opened
  split at opened
  · next missing =>
      cases opened
      exact unambiguous.append (get?_eq_none_iff.mp missing) unambiguous_nil.table
  · next found =>
      cases opened
      refine (unambiguous.without _).append ?_ (unambiguous.value_of_get? found).inside.table
      simp [keys]
  · cases opened

theorem keeps_openListTable (span : Span) (path : List Key) (key : Key) :
    Change.Keeps (openListTable span path key) := by
  refine keeps_changeAt ?_ path []
  intro origin entries result opened unambiguous
  dsimp only at opened
  split at opened
  · next missing =>
      cases opened
      refine unambiguous.append (get?_eq_none_iff.mp missing) (.list span true ?_)
      intro item present
      rw [List.mem_singleton.mp present]
      exact unambiguous_nil.table
  · next found =>
      cases opened
      exact unambiguous.replace ((unambiguous.value_of_get? found).concat (List.Subset.refl _)
        unambiguous_nil.table)
  · cases opened

/-- Stretching changes spans only. -/
theorem Unambiguous.stretch (unambiguous : entries.Unambiguous) (stop : Nat) (path : List Key) :
    Entries.Unambiguous (Entries.stretch stop path entries) := by
  induction path generalizing entries with
  | nil => exact unambiguous
  | cons key path ih =>
      rw [Entries.stretch]
      dsimp only
      split
      · next found =>
          exact unambiguous.replace (ih (unambiguous.value_of_get? found).inside).table
      · next found =>
          have unambiguous_items := unambiguous.value_of_get? found
          split
          · next is_last =>
              have unambiguous_last := unambiguous_items.of_mem (List.mem_of_getLast? is_last)
              have unambiguous_inner := ih unambiguous_last.inside
              exact unambiguous.replace
                (unambiguous_items.concat (List.dropLast_subset _) unambiguous_inner.table)
          · exact unambiguous
      · exact unambiguous

end Entries

end TapeAdmin.Toml
