import TapeAdmin.Shell.Pattern

/-!
# Fields

How a word falls apart after its parts have been replaced: at the separators in what stood for the
parts, unless it is quoted, and between the items of a list.
-/

namespace TapeAdmin.Shell

/-- A piece of a word whose parts have been replaced. -/
inductive Fragment where
  /-- Text; `splits` says that separators in it end a field. -/
  | text (text : Octets) (quoted splits : Bool)
  /-- The end of an item of a list. -/
  | gap
  deriving DecidableEq, Repr

namespace Fragment

/-- The text of a fragment. -/
def octets : Fragment → Octets
  | .text content _ _ => content
  | .gap => ""

/-- The glyphs of a text. -/
def glyphs (quoted : Bool) (text : Octets) : List Glyph :=
  text.toList.map fun char => ⟨char, quoted⟩

/-- The glyphs of fragments that make one field. -/
def allGlyphs (fragments : List Fragment) : List Glyph :=
  fragments.flatMap fun
    | .text content quoted _ => glyphs quoted content
    | .gap => []

/-- The text of fragments that make one field. -/
def join (fragments : List Fragment) : Octets :=
  String.join (fragments.map octets)

end Fragment

/-- The characters that separate fields. -/
structure Separators where
  chars : List Char
  deriving Repr

namespace Separators

/-- Whether a character separates fields. -/
def contains (separators : Separators) (char : Char) : Bool :=
  separators.chars.contains char

/-- Whether a character separates fields, and several of them in a row do so once. -/
def isSpace (separators : Separators) (char : Char) : Bool :=
  separators.contains char && (char == ' ' || char == '\t' || char == '\n')

/-- What follows the separators at the start of a text that belong to one separation: any number of
blank ones, and one other if `another` allows for it. -/
def skip (separators : Separators) (another : Bool) : List Char → List Char
  | [] => []
  | char :: chars =>
    if separators.isSpace char then separators.skip another chars
    else if separators.contains char && another then separators.skip false chars
    else char :: chars

theorem skip_length_le (separators : Separators) (another : Bool) (chars : List Char) :
    (separators.skip another chars).length ≤ chars.length := by
  induction chars generalizing another with
  | nil => simp [skip]
  | cons char chars ih =>
    simp only [skip, List.length_cons]
    split
    · exact Nat.le_succ_of_le (ih another)
    · split
      · exact Nat.le_succ_of_le (ih false)
      · simp

end Separators

/-- The fields of a word while it is taken apart. -/
structure Splitting where
  /-- The fields that are complete, the last one first. -/
  complete : List (List Glyph) := []
  /-- The field that is open, if there is one, with its last glyph first. -/
  opened : Option (List Glyph) := none

namespace Splitting

/-- Adds a glyph to the open field. -/
def add (splitting : Splitting) (glyph : Glyph) : Splitting :=
  { splitting with opened := some (glyph :: splitting.opened.getD []) }

/-- Adds a text that does not fall apart. -/
def addText (splitting : Splitting) (quoted : Bool) (text : Octets) : Splitting :=
  let splitting :=
    if quoted then { splitting with opened := some (splitting.opened.getD []) } else splitting
  text.toList.foldl (fun splitting char => splitting.add ⟨char, quoted⟩) splitting

/-- Ends the open field, which is empty if nothing has opened it. -/
def finish (splitting : Splitting) : Splitting :=
  { complete := (splitting.opened.getD []).reverse :: splitting.complete, opened := none }

/-- Ends the open field if there is one. -/
def close (splitting : Splitting) : Splitting :=
  if splitting.opened.isSome then splitting.finish else splitting

/-- Adds a text that falls apart at separators. -/
def split (separators : Separators) (splitting : Splitting) : List Char → Splitting
  | [] => splitting
  | char :: chars =>
    if !separators.contains char then (splitting.add ⟨char, false⟩).split separators chars
    else if splitting.opened.isNone && separators.isSpace char then
      splitting.split separators chars
    else
      have := separators.skip_length_le (separators.isSpace char) chars
      splitting.finish.split separators (separators.skip (separators.isSpace char) chars)
termination_by chars => chars.length
decreasing_by all_goals simp only [List.length_cons]; omega

/-- Adds a fragment. -/
def addFragment (separators : Separators) (splitting : Splitting) : Fragment → Splitting
  | .gap => splitting.close
  | .text text quoted splits =>
    if splits && !quoted then splitting.split separators text.toList
    else splitting.addText quoted text

end Splitting

/-- The fields of a word whose parts have been replaced. -/
def fields (separators : Separators) (fragments : List Fragment) : List (List Glyph) :=
  (fragments.foldl (Splitting.addFragment separators) {}).close.complete.reverse

end TapeAdmin.Shell
