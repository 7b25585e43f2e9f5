/-!
# Paths

A path keeps the text it was given, and is compared by its components: repeated separators, a
separator at the end and `.` after the first place do not matter. A leading `.` is a component of
its own, and `..` is never resolved. Components are ordered as they are listed, names by their
characters, and paths lexicographically by their components.
-/

namespace TapeAdmin

/-- One step of a path. -/
inductive PathComponent where
  | root
  | current
  | parent
  | name (text : String)
  deriving DecidableEq, Repr, Ord

/-- The name of a place in the file system, as written. -/
structure FilePath where
  text : String
  deriving DecidableEq, Repr, Inhabited

namespace FilePath

/-- A path that starts at the root directory. -/
def isAbsolute (path : FilePath) : Bool :=
  path.text.toList.head? == some '/'

/-- The non-empty texts between the separators. -/
def segments (path : FilePath) : List String :=
  ((path.text.toList.splitOn '/').filter fun segment => !segment.isEmpty).map String.ofList

/-- The component for a segment; a `.` counts for nothing. -/
def componentOf? (segment : String) : Option PathComponent :=
  if segment = "." then none
  else if segment = ".." then some .parent
  else some (.name segment)

/-- The components of a path. -/
def components (path : FilePath) : List PathComponent :=
  let named := path.segments.filterMap componentOf?
  if path.isAbsolute then .root :: named
  else if path.segments.head? = some "." then .current :: named
  else named

/-- Two paths with the same components. -/
def Same (path other : FilePath) : Prop :=
  path.components = other.components

instance (path other : FilePath) : Decidable (Same path other) :=
  inferInstanceAs (Decidable (path.components = other.components))

theorem Same.refl (path : FilePath) : Same path path := rfl

theorem Same.symm {path other : FilePath} (same : Same path other) : Same other path :=
  Eq.symm same

theorem Same.trans {path other third : FilePath} (first : Same path other)
    (second : Same other third) : Same path third :=
  Eq.trans first second

/-- Whether two paths have the same components. -/
def same (path other : FilePath) : Bool :=
  decide (Same path other)

@[simp]
theorem same_iff {path other : FilePath} : same path other = true ↔ Same path other := by
  simp [same]

/-- The order of two paths. -/
def order (path other : FilePath) : Ordering :=
  List.compareLex compare path.components other.components

/-- The name at the end of a path; a path that ends in `..` or names no place has none. -/
def fileName? (path : FilePath) : Option String :=
  match path.components.getLast? with
  | some (.name text) => some text
  | _ => none

/-- The path of `name` inside the directory `directory`. -/
def join (directory : FilePath) (name : String) : FilePath :=
  if name.toList.head? = some '/' || directory.text.isEmpty then ⟨name⟩
  else if directory.text.toList.getLast? = some '/' then ⟨directory.text ++ name⟩
  else ⟨directory.text ++ "/" ++ name⟩

/-- Puts a path into an ordered list of paths, in place of an equal one. -/
def insertSorted (path : FilePath) : List FilePath → List FilePath
  | [] => [path]
  | other :: rest =>
    match order path other with
    | .lt => path :: other :: rest
    | .eq => path :: rest
    | .gt => other :: insertSorted path rest

/-- The paths of a list in order; of equal paths the last one is kept. -/
def sorted (paths : List FilePath) : List FilePath :=
  paths.foldl (fun ordered path => insertSorted path ordered) []

/-- Whether a list holds a path with the same components. -/
def isIn (path : FilePath) (paths : List FilePath) : Bool :=
  paths.any path.same

end FilePath

end TapeAdmin
