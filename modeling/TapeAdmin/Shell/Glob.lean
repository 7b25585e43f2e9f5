import TapeAdmin.File.System
import TapeAdmin.Shell.Pattern

/-!
# Patterns for paths

The paths of a file system that fit a pattern. A pattern for a path is one for each of its segments;
a name with a point at its start fits only a pattern that has the point as well.
-/

namespace TapeAdmin.Shell

namespace Glob

/-- The segments of a pattern. -/
def segments (glyphs : List Glyph) : List (List Glyph) :=
  glyphs.splitOnP fun glyph => glyph.char == '/'

/-- The text of a segment that is no pattern. -/
def plainText : Pattern → Octets
  | [] => ""
  | .char char :: pattern => char.toString ++ plainText pattern
  | _ :: pattern => plainText pattern

/-- Whether a name fits a pattern. -/
def fitsName (pattern : Pattern) (name : Octets) : Bool :=
  let chars := name.toList
  let isHidden := chars.head? == some '.'
  (!isHidden || pattern.head? == some (.char '.')) && pattern.fits chars

/-- The names in a directory, as the shell sees them. -/
def names (files : FileSystem) (directory : Octets) : List Octets :=
  let path := if directory.isEmpty then "." else directory
  match files.list (Octets.path path) with
  | .ok entries => "." :: ".." :: entries.map fun entry => Octets.ofText entry.1
  | .error _ => []

/-- Whether something is at a path. -/
def leadsSomewhere (files : FileSystem) (path : Octets) : Bool :=
  match files.find (Octets.path path) with
  | .ok _ => true
  | .error _ => false

/-- The paths that start with the given text and go on with segments that fit patterns. -/
def paths (files : FileSystem) (start : Octets) : List (List Glyph) → List Octets
  | [] => []
  | segment :: rest =>
    let pattern := Pattern.ofGlyphs segment
    let here :=
      if pattern.isOpen then
        (names files start).filterMap fun name =>
          if fitsName pattern name then some (start ++ name) else none
      else [start ++ plainText pattern]
    match rest with
    | [] => if pattern.isOpen then here else here.filter (leadsSomewhere files)
    | _ => here.flatMap fun path =>
      if leadsSomewhere files (path ++ "/") then paths files (path ++ "/") rest else []

/-- The paths that fit a pattern, in the order of their bytes. -/
def expand (files : FileSystem) (glyphs : List Glyph) : List Octets :=
  (paths files "" (segments glyphs)).mergeSort fun first second => first ≤ second

end Glob

end TapeAdmin.Shell
