import TapeAdmin.File.System
import TapeAdmin.Proofs.Result

/-!
# What is stored

Writing a file changes what is at one place, the one that its path opens, and nothing else.
-/

namespace TapeAdmin.FileSystem

variable {system files : FileSystem} {place other : List String} {entry : FileEntry}

theorem follow_nil : system.follow place [] = .ok place := by
  rw [follow, followUpTo]

/-- A name alone is a name in the directory where it is followed. -/
theorem parentPlace_singleton {name : String} (directory : system.entry? place = some .directory)
    (fits : name.utf8ByteSize ≤ nameLimit) :
    system.parentPlace place [name] = .ok (place, name) := by
  rw [parentPlace, List.getLast?_singleton, List.dropLast_singleton, follow_nil]
  dsimp only [bind, Except.bind]
  rw [directory]
  exact if_neg (Nat.not_lt.mpr fits)

theorem entry?_of_ne_nil (below : place ≠ []) :
    system.entry? place = system.places.lookup place := by
  cases place with
  | nil => exact absurd rfl below
  | cons name names => rfl

theorem lookup_replaced_self {places : List (List String × FileEntry)}
    (known : (places.lookup place).isSome = true) :
    (places.map fun (name, found) =>
      if name = place then (name, entry) else (name, found)).lookup place = some entry := by
  induction places with
  | nil => cases known
  | cons head places ih =>
      rcases head with ⟨name, found⟩
      by_cases same : name = place
      · simp [same]
      · have passed : (place == name) = false := by simpa using Ne.symm same
        rw [List.lookup_cons, passed] at known
        simpa [List.lookup_cons, same, passed] using ih known

theorem lookup_replaced_of_ne (different : other ≠ place)
    (places : List (List String × FileEntry)) :
    (places.map fun (name, found) =>
      if name = place then (name, entry) else (name, found)).lookup other =
      places.lookup other := by
  induction places with
  | nil => rfl
  | cons head places ih =>
      rcases head with ⟨name, found⟩
      by_cases same : name = place
      · have passed : (other == place) = false := by simpa using different
        simpa [List.lookup_cons, same, passed] using ih
      · simp only [List.map_cons, List.lookup_cons, if_neg same, ih]

/-- What is put at a place below the root is found there. -/
theorem entry?_put_self (below : place ≠ []) :
    FileSystem.entry? (system.put place entry) place = some entry := by
  rw [entry?_of_ne_nil below, put]
  split
  · next known => exact lookup_replaced_self known
  · next unknown =>
      rw [Bool.not_eq_true, Option.isSome_eq_false_iff, Option.isNone_iff_eq_none] at unknown
      simp [List.lookup_append, unknown]

/-- Whatever is at another place is left alone. -/
theorem entry?_put_of_ne (different : other ≠ place) :
    FileSystem.entry? (system.put place entry) other = system.entry? other := by
  cases other with
  | nil => rfl
  | cons name names =>
      rw [entry?_of_ne_nil (List.cons_ne_nil _ _), entry?_of_ne_nil (List.cons_ne_nil _ _), put]
      split
      · exact lookup_replaced_of_ne different system.places
      · have passed : (name :: names == place) = false := by simpa using different
        simp [List.lookup_append, List.lookup_cons, passed]

/-- The place that a path opens is no directory. -/
theorem entry?_ne_of_openPlace {path : FilePath} (opened : system.openPlace path = .ok place) :
    system.entry? place ≠ some .directory := by
  rw [openPlace] at opened
  rcases exists_of_bind_ok opened with ⟨_, _, opened⟩
  split at opened
  · rcases exists_of_bind_ok opened with ⟨_, _, refused⟩
    cases refused
  · rcases exists_of_bind_ok opened with ⟨reached, _, opened⟩
    split at opened
    · cases opened
    · next no_directory =>
        cases opened
        exact no_directory

/-- A written file is at the place that its path opens, unless there is a device, and all else is
left alone. -/
theorem entry?_of_write {path : FilePath} {content : List UInt8}
    (written : system.write path content = .ok files) (opened : system.openPlace path = .ok place)
    (no_device : system.entry? place ∉ [some .device, some .fullDevice]) :
    files.entry? place = some (.file content) ∧
      ∀ other, other ≠ place → files.entry? other = system.entry? other := by
  have below : place ≠ [] := by
    rintro rfl
    exact entry?_ne_of_openPlace opened rfl
  have stored : files = system.put place (.file content) := by
    rw [write, opened] at written
    change system.store place content = .ok files at written
    rw [store] at written
    split at written
    · next device => simp [device] at no_device
    · next device => simp [device] at no_device
    · exact (Except.ok.inj written).symm
  rw [stored]
  exact ⟨entry?_put_self below, fun other different => entry?_put_of_ne different⟩

end TapeAdmin.FileSystem
