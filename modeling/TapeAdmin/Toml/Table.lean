import TapeAdmin.Toml.Value

/-!
# Building tables

The lines of a document add to its tables one after the other. A header opens a table once, and may
come after headers of tables inside it; a dotted key adds only to tables that dotted keys made; a
table in braces is never added to. Whatever would define a key twice is refused.
-/

namespace TapeAdmin.Toml.Entries

/-- The message for a key, in some spelling, that is defined already in the table at a path. -/
def duplicateIn (spelling : String) (path : List Key) : String :=
  "duplicate key `" ++ spelling ++ "` in " ++
    if path.isEmpty then "document root"
    else "table `" ++ String.intercalate "." (path.map Key.text) ++ "`"

/-- The message for a key that a dotted key cannot pass through. -/
def duplicate (key : Key) : String :=
  "duplicate key `" ++ key.text ++ "`"

/-- The message for a path that passes through a value that is no table. -/
def notExtensible (path : List Key) (value : Value) : String :=
  "dotted key `" ++ String.intercalate "." (path.map Key.text) ++
    "` attempted to extend non-table type (" ++ value.kindWord ++ ")"

/-- The entries with another value for a key that they have. -/
def replace (entries : Entries) (key : Key) (value : Value) : Entries :=
  entries.map fun entry => if entry.1.text = key.text then (entry.1, value) else entry

/-- Where the path to a table is written. -/
inductive PathPlace where
  /-- In a header. -/
  | header
  /-- In a dotted key on a line of its own. -/
  | line
  /-- In a dotted key between braces. -/
  | braces
  deriving DecidableEq, Repr

/-- A change to a table, given how it came to be and its entries. -/
abbrev Change := TableOrigin → Entries → Except String Entries

/--
Changes the table at the end of a path, and makes the tables that are missing on the way. A dotted
key does not pass through a table that a header opened, and nothing passes through a table in
braces. `passed` are the keys before the path.
-/
def changeAt (place : PathPlace) (change : Change) (passed : List Key) :
    List Key → TableOrigin → Entries → Except String Entries
  | [], origin, entries => change origin entries
  | key :: path, _, entries =>
    let passed := passed ++ [key]
    match entries.get? key.text with
    | none => do
      let origin := if place = .header then .innerHeader else .dottedKey
      let inner ← changeAt place change passed path origin []
      .ok (entries ++ [(key, .table key.span origin inner)])
    | some (.table span origin inner) =>
      if origin = .braces && place != .braces then
        .error (notExtensible passed (.table span origin inner))
      else if origin = .braces || (origin = .header && place = .line) then .error (duplicate key)
      else do
        let inner ← changeAt place change passed path origin inner
        .ok (entries.replace key (.table span origin inner))
    | some (.list span true items) =>
      match items.getLast? with
      | some (.table innerSpan origin inner) => do
        let inner ← changeAt place change passed path origin inner
        .ok (entries.replace key
          (.list span true (items.dropLast ++ [.table innerSpan origin inner])))
      | _ => .error (notExtensible passed (.list span true items))
    | some value => .error (notExtensible passed value)

/-- Adds a key and a value to a table, unless the key is there already. `nested` says that a dotted
key led to the table; it must be a table made by dotted keys then. -/
def add (nested : Bool) (key : Key) (value : Value) (message : String) : Change :=
  fun origin entries =>
    if nested && origin != .dottedKey then .error (duplicate key)
    else if (entries.get? key.text).isSome then .error message
    else .ok (entries ++ [(key, value)])

/-- Adds a value under a dotted key, given as the keys before the last and the last, to a table. -/
def addDotted (place : PathPlace) (path : List Key) (key : Key) (value : Value) (message : String) :
    Change :=
  changeAt place (add (!path.isEmpty) key value message) [] path

/-- Opens the table of a header, given as the keys before the last and the last. -/
def openTable (span : Span) (path : List Key) (key : Key) : Change :=
  changeAt .header (fun _ entries =>
    match entries.get? key.text with
    | none => .ok (entries ++ [(key, .table span .header [])])
    | some (.table _ .innerHeader inner) =>
      .ok ((entries.filter fun entry => entry.1.text != key.text) ++
        [(key, .table span .header inner)])
    | some _ => .error (duplicateIn key.written path)) [] path

/-- Opens one more table of a header in double brackets. -/
def openListTable (span : Span) (path : List Key) (key : Key) : Change :=
  changeAt .header (fun _ entries =>
    let fresh : Value := .table span .header []
    match entries.get? key.text with
    | none => .ok (entries ++ [(key, .list span true [fresh])])
    | some (.list listSpan true items) =>
      .ok (entries.replace key (.list ⟨listSpan.start, span.stop⟩ true (items ++ [fresh])))
    | some _ => .error (duplicateIn key.written path)) [] path

/-- Stretches the table that a header opened, given as its path, to the end of a value in it. -/
def stretch (stop : Nat) : (path : List Key) → Entries → Entries
  | [], entries => entries
  | key :: path, entries =>
    let stretched (span : Span) : Span := if path.isEmpty then ⟨span.start, stop⟩ else span
    match entries.get? key.text with
    | some (.table span origin inner) =>
      entries.replace key (.table (stretched span) origin (stretch stop path inner))
    | some (.list span true items) =>
      match items.getLast? with
      | some (.table innerSpan origin inner) =>
        let last : Value := .table (stretched innerSpan) origin (stretch stop path inner)
        entries.replace key (.list (stretched span) true (items.dropLast ++ [last]))
      | _ => entries
    | _ => entries

end TapeAdmin.Toml.Entries
