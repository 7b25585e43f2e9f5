import TapeAdmin.File.Path

/-!
# Comparing and joining paths

A name that is joined to a directory becomes the last component of the path, however the directory
is written, so paths in one directory are the same only if their names are. The order of paths tells
apart whatever differs in a component, so putting different paths in order loses none.
-/

namespace TapeAdmin

namespace PathComponent

@[simp]
theorem compare_name (text other : String) :
    compare (name text) (name other) = compare text other := by
  change instOrdPathComponent.ord _ _ = _
  simp [instOrdPathComponent.ord]

instance : Std.LawfulEqOrd PathComponent where
  eq_of_compare {component other} equal := by
    cases component with
    | name text =>
        cases other with
        | name _ =>
            rw [compare_name, Std.compare_eq_iff_eq] at equal
            rw [equal]
        | _ => cases equal
    | _ => cases other <;> first | rfl | cases equal
  compare_self {component} := by
    cases component with
    | name text => rw [compare_name, Std.compare_self]
    | _ => rfl

end PathComponent

namespace FilePath

theorem order_eq_iff {path other : FilePath} : order path other = .eq ↔ Same path other := by
  rw [order, Same]
  exact Std.LawfulEqOrd.compare_eq_iff_eq (α := List PathComponent)

/-! ### Putting paths in order -/

/-- A path that is none of the paths in a list is put among them. -/
theorem insertSorted_perm {path : FilePath} {paths : List FilePath}
    (new : ∀ other ∈ paths, ¬Same path other) :
    (insertSorted path paths).Perm (path :: paths) := by
  induction paths with
  | nil => exact .refl _
  | cons other rest ih =>
      rw [insertSorted]
      split
      · exact .refl _
      · next equal =>
          exact absurd (order_eq_iff.mp equal) (new other List.mem_cons_self)
      · have later := ih fun third third_mem => new third (List.mem_cons_of_mem _ third_mem)
        exact (later.cons other).trans (.swap path other rest)

theorem foldl_insertSorted_perm {ordered paths : List FilePath}
    (distinct : (ordered ++ paths).Pairwise fun path other => ¬Same path other) :
    (paths.foldl (fun ordered path => insertSorted path ordered) ordered).Perm
      (ordered ++ paths) := by
  induction paths generalizing ordered with
  | nil => simp
  | cons path rest ih =>
      have new : ∀ other ∈ ordered, ¬Same path other := by
        intro other other_mem same
        have apart := (List.pairwise_append.mp distinct).2.2
        exact apart other other_mem path List.mem_cons_self same.symm
      have parts : (insertSorted path ordered ++ rest).Perm (ordered ++ path :: rest) :=
        ((insertSorted_perm new).append_right rest).trans List.perm_middle.symm
      refine (ih ?_).trans parts
      exact (parts.pairwise_iff fun apart same => apart same.symm).mpr distinct

/-- Different paths are put in order without loss. -/
theorem sorted_perm {paths : List FilePath}
    (distinct : paths.Pairwise fun path other => ¬Same path other) :
    (sorted paths).Perm paths :=
  foldl_insertSorted_perm (by simpa using distinct)

/-! ### Joining a name to a directory -/

/-- A text that can stand as a name in a directory. -/
structure IsPlainName (name : String) : Prop where
  nonempty : name ≠ ""
  noSeparator : '/' ∉ name.toList
  notCurrent : name ≠ "."
  notParent : name ≠ ".."

variable {directory : FilePath} {name : String}

theorem segments_of_plain (plain : IsPlainName name) : segments ⟨name⟩ = [name] := by
  have some_char : name.toList ≠ [] := by simpa using plain.nonempty
  simp [segments, List.splitOn_eq_singleton plain.noSeparator, some_char]

theorem IsPlainName.head?_ne (plain : IsPlainName name) : name.toList.head? ≠ some '/' := by
  intro separator
  exact plain.noSeparator (List.mem_of_mem_head? separator)

/-- How a joined path is written. -/
theorem text_join (directory : FilePath) (plain : IsPlainName name) :
    directory.text = "" ∧ directory.join name = ⟨name⟩ ∨
      (∃ front, directory.text.toList = front ++ ['/'] ∧
        (directory.join name).text.toList = front ++ '/' :: name.toList) ∨
      directory.text ≠ "" ∧
        (directory.join name).text.toList = directory.text.toList ++ '/' :: name.toList := by
  have relative := plain.head?_ne
  by_cases none_given : directory.text = ""
  · exact Or.inl ⟨none_given, by simp [join, none_given]⟩
  · refine Or.inr ?_
    by_cases closed : directory.text.toList.getLast? = some '/'
    · rcases List.getLast?_eq_some_iff.mp closed with ⟨front, front_eq⟩
      exact Or.inl ⟨front, front_eq, by simp [join, relative, none_given, front_eq]⟩
    · exact Or.inr ⟨none_given, by simp [join, relative, none_given, closed]⟩

theorem segments_join (plain : IsPlainName name) :
    (directory.join name).segments = directory.segments ++ [name] := by
  have own := segments_of_plain plain
  rw [segments] at own
  rcases text_join directory plain with
    ⟨none_given, joined⟩ | ⟨front, front_eq, joined⟩ | ⟨_, joined⟩
  · rw [joined, segments_of_plain plain]
    simp [segments, none_given]
  · rw [segments, joined, segments, front_eq, List.splitOn_append_cons_self,
      List.splitOn_append_cons_self, List.filter_append, List.map_append, own]
    simp
  · rw [segments, joined, segments, List.splitOn_append_cons_self, List.filter_append,
      List.map_append, own]

theorem isAbsolute_join (plain : IsPlainName name) :
    (directory.join name).isAbsolute = directory.isAbsolute := by
  rcases text_join directory plain with
    ⟨none_given, joined⟩ | ⟨front, front_eq, joined⟩ | ⟨some_text, joined⟩
  · simp [isAbsolute, joined, none_given, plain.head?_ne]
  · rw [isAbsolute, joined, isAbsolute, front_eq]
    cases front <;> rfl
  · rw [isAbsolute, joined, isAbsolute]
    cases chars : directory.text.toList with
    | nil => exact absurd (String.toList_eq_nil_iff.mp chars) some_text
    | cons _ _ => rfl

/-- A name that is joined to a directory is one more component. -/
theorem components_join (plain : IsPlainName name) :
    (directory.join name).components = directory.components ++ [.name name] := by
  have own : [name].filterMap componentOf? = [.name name] := by
    simp [componentOf?, plain.notCurrent, plain.notParent]
  have start : (directory.segments ++ [name]).head? = some "." ↔
      directory.segments.head? = some "." := by
    cases directory.segments with
    | nil => simp [plain.notCurrent]
    | cons _ _ => rfl
  simp only [components, segments_join plain, isAbsolute_join plain, List.filterMap_append, own,
    start]
  split
  · rfl
  · split <;> rfl

theorem fileName?_join (plain : IsPlainName name) :
    (directory.join name).fileName? = some name := by
  rw [fileName?, components_join plain, List.getLast?_concat]

/-- Paths in one directory are the same only if their names are. -/
theorem same_join_iff {other : String} (plain : IsPlainName name)
    (other_plain : IsPlainName other) :
    Same (directory.join name) (directory.join other) ↔ name = other := by
  rw [Same, components_join plain, components_join other_plain]
  simp

end FilePath

end TapeAdmin
