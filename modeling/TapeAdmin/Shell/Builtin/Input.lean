import TapeAdmin.Shell.Builtin.Options
import TapeAdmin.Shell.Expansion

/-!
# Reading input

The command of the shell that reads a line and gives its fields to variables.
-/

namespace TapeAdmin.Shell

namespace Builtin

open Act

/-- Reads the characters of a line with its escapes; a line that is joined to the next one goes on
there. Says whether the line has an end. `fuel` bounds the number of lines. -/
def readLine (isRaw : Bool) : Nat → Act (List Glyph × Bool)
  | 0 => return ([], false)
  | fuel + 1 => do
    match ← read 0 .line with
    | .error _ => return ([], false)
    | .ok text =>
      let chars := text.toList.filter (· != '\x00')
      let isWhole := chars.getLast? == some '\n'
      let line := if isWhole then chars.dropLast else chars
      if isRaw then return (line.map fun char => ⟨char, false⟩, isWhole)
      else
        let (glyphs, isJoined) := glyphsOf line
        if isJoined && isWhole then
          let (more, isWhole) ← readLine isRaw fuel
          return (glyphs ++ more, isWhole)
        else return (glyphs, isWhole)
where
  /-- The glyphs of a line, and whether a backslash stands at its end. -/
  glyphsOf : List Char → List Glyph × Bool
    | [] => ([], false)
    | ['\\'] => ([], true)
    | '\\' :: char :: chars =>
      let (glyphs, isJoined) := glyphsOf chars
      (⟨char, true⟩ :: glyphs, isJoined)
    | char :: chars =>
      let (glyphs, isJoined) := glyphsOf chars
      (⟨char, false⟩ :: glyphs, isJoined)

/-- Whether a glyph is a separator. -/
def separates (separators : Separators) (glyph : Glyph) : Bool :=
  !glyph.quoted && separators.contains glyph.char

/-- Whether a glyph is a blank separator. -/
def isSpace (separators : Separators) (glyph : Glyph) : Bool :=
  !glyph.quoted && separators.isSpace glyph.char

/-- The last of the fields that are read, which takes all that is left: without the separators after
it if they belong to one separation, and otherwise without the blank ones. -/
def lastField (separators : Separators) (glyphs : List Glyph) : List Glyph :=
  let field := glyphs.takeWhile fun glyph => !separates separators glyph
  let after := glyphs.drop field.length
  let marks := after.filter fun glyph => !isSpace separators glyph
  if after.all (separates separators) && marks.length ≤ 1 then field
  else (glyphs.reverse.dropWhile (isSpace separators)).reverse

/-- The fields of a line, of which there are as many as given. -/
def readFields (separators : Separators) : (count : Nat) → List Glyph → List Octets
  | 0, _ => []
  | count + 1, glyphs =>
    let start := glyphs.dropWhile (isSpace separators)
    if count = 0 then
      [String.ofList ((lastField separators start).map Glyph.char)]
    else
      let field := start.takeWhile fun glyph => !separates separators glyph
      let after := start.drop field.length
      let blanks := after.dropWhile (isSpace separators)
      let rest :=
        match blanks with
        | mark :: others => if separates separators mark then others else blanks
        | [] => []
      String.ofList (field.map Glyph.char) :: readFields separators count rest

/-- `read`, which fails where the input ends before its first line does. It would ask with a prompt
only on a terminal. -/
def readWords (arguments : List Octets) : Act Nat := do
  let (options, names) ← takeOptions ['r'] ['p'] arguments
  if names.isEmpty then fail "arg count"
  else
    let isRaw := (options.lookup 'r').isSome
    let (glyphs, isWhole) ← readLine isRaw (← get).steps
    let values := readFields (← Expansion.separators) names.length glyphs
    for (name, value) in names.zip (values ++ List.replicate names.length "") do
      demandName name
      assign name value
    return if isWhole then 0 else 1

end Builtin

end TapeAdmin.Shell
