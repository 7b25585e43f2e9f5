import TapeAdmin.Shell.Octets

/-!
# Patterns

The patterns of the shell: `*` stands for any text, `?` for one character, and brackets for one of a
set of characters. A quoted character stands for itself.
-/

namespace TapeAdmin.Shell

/-- A character of a word, with whether it is quoted. -/
structure Glyph where
  char : Char
  quoted : Bool
  deriving DecidableEq, Repr

/-- A part of the set that brackets stand for. -/
inductive SetMember where
  | range (first last : Char)
  | named (name : String)
  deriving DecidableEq, Repr

/-- What one place of a text must be like. -/
inductive PatternItem where
  | char (char : Char)
  | any
  | anyText
  | oneOf (inverted : Bool) (members : List SetMember)
  deriving DecidableEq, Repr

/-- A pattern, as what the places of a text must be like. -/
abbrev Pattern := List PatternItem

namespace Pattern

/-- Whether a character belongs to a named class. -/
def inClass (name : String) (char : Char) : Bool :=
  let control := char.toNat < 32 || char.toNat == 127
  let visible := 32 < char.toNat && char.toNat < 127
  match name with
  | "alpha" => char.isAlpha
  | "digit" => char.isDigit
  | "alnum" => char.isAlphanum
  | "upper" => char.isUpper
  | "lower" => char.isLower
  | "xdigit" => char.isDigit || ('a' ≤ char && char ≤ 'f') || ('A' ≤ char && char ≤ 'F')
  | "blank" => char == ' ' || char == '\t'
  | "space" => char == ' ' || (9 ≤ char.toNat && char.toNat ≤ 13)
  | "cntrl" => control
  | "graph" => visible
  | "print" => visible || char == ' '
  | "punct" => visible && !char.isAlphanum
  | _ => false

/-- The names of the classes. -/
def classNames : List String := [
  "alpha", "digit", "alnum", "upper", "lower", "xdigit", "blank", "space", "cntrl", "graph",
  "print", "punct"]

/-- Whether a character belongs to a part of a set. -/
def SetMember.holds (char : Char) : SetMember → Bool
  | .range first last => first ≤ char && char ≤ last
  | .named name => inClass name char

/-- An unquoted character. -/
def isSign (char : Char) (glyph : Glyph) : Bool :=
  glyph.char == char && !glyph.quoted

/-- The name of the class that the text after an opening bracket names, and the text after it. -/
def className? : List Glyph → Option (String × List Glyph)
  | colon :: glyphs =>
    if isSign ':' colon then
      let name := glyphs.takeWhile fun glyph => glyph.char.isAlpha
      match glyphs.drop name.length with
      | second :: bracket :: rest =>
        let text := String.ofList (name.map Glyph.char)
        if isSign ':' second && isSign ']' bracket && classNames.contains text then
          some (text, rest)
        else none
      | _ => none
    else none
  | [] => none

/-- The character at the start of a set; an unquoted backslash makes the next one stand for itself.
-/
def setChar? : List Glyph → Option (Char × List Glyph)
  | glyph :: glyphs =>
    if isSign '\\' glyph then
      match glyphs with
      | next :: rest => some (next.char, rest)
      | [] => some (glyph.char, [])
    else some (glyph.char, glyphs)
  | [] => none

/-- The members of a set up to its closing bracket, and the text after it. A closing bracket at the
start is a member; `fuel` bounds the number of members. -/
def members? : Nat → (isFirst : Bool) → List Glyph → Option (List SetMember × List Glyph)
  | 0, _, _ => none
  | _, _, [] => none
  | fuel + 1, isFirst, glyph :: glyphs =>
    if isSign ']' glyph && !isFirst then some ([], glyphs)
    else
      match if isSign '[' glyph then className? glyphs else none with
      | some (name, rest) =>
        (members? fuel false rest).map fun (members, rest') => (.named name :: members, rest')
      | none => do
        let (first, rest) ← setChar? (glyph :: glyphs)
        match rest with
        | mark :: next :: rest' =>
          if isSign '-' mark && !isSign ']' next then
            let (last, rest'') ← setChar? (next :: rest')
            let (members, rest''') ← members? fuel false rest''
            return (.range first last :: members, rest''')
          else
            let (members, rest'') ← members? fuel false rest
            return (.range first first :: members, rest'')
        | _ =>
          let (members, rest') ← members? fuel false rest
          return (.range first first :: members, rest')

/-- The pattern that glyphs make; `fuel` bounds the number of its items. -/
def ofGlyphsUpTo : Nat → List Glyph → Pattern
  | 0, _ => []
  | _, [] => []
  | fuel + 1, glyph :: glyphs =>
    if isSign '*' glyph then .anyText :: ofGlyphsUpTo fuel glyphs
    else if isSign '?' glyph then .any :: ofGlyphsUpTo fuel glyphs
    else if isSign '\\' glyph then
      match glyphs with
      | next :: rest => .char next.char :: ofGlyphsUpTo fuel rest
      | [] => [.char '\\']
    else if isSign '[' glyph then
      let (inverted, start) :=
        match glyphs with
        | next :: rest => if isSign '!' next then (true, rest) else (false, glyphs)
        | [] => (false, [])
      match members? (start.length + 1) true start with
      | some (members, rest) => .oneOf inverted members :: ofGlyphsUpTo fuel rest
      | none => .char '[' :: ofGlyphsUpTo fuel glyphs
    else .char glyph.char :: ofGlyphsUpTo fuel glyphs

/-- The pattern that glyphs make. -/
def ofGlyphs (glyphs : List Glyph) : Pattern :=
  ofGlyphsUpTo glyphs.length glyphs

/-- Whether a pattern stands for more than one text. -/
def isOpen (pattern : Pattern) : Bool :=
  pattern.any fun
    | .char _ => false
    | _ => true

/-- Whether a text fits a pattern. -/
def fits : Pattern → List Char → Bool
  | [], text => text.isEmpty
  | .anyText :: pattern, [] => fits pattern []
  | .anyText :: pattern, char :: text =>
    fits pattern (char :: text) || fits (.anyText :: pattern) text
  | _ :: _, [] => false
  | .any :: pattern, _ :: text => fits pattern text
  | .char wanted :: pattern, char :: text => wanted == char && fits pattern text
  | .oneOf inverted members :: pattern, char :: text =>
    (members.any (SetMember.holds char) != inverted) && fits pattern text
termination_by pattern text => (pattern.length, text.length)

/-- The rest of a text after the shortest start of it, or the longest, that fits a pattern. -/
def withoutFront (pattern : Pattern) (longest : Bool) (text : List Char) : List Char :=
  let counts := List.range (text.length + 1)
  let count? := (if longest then counts.reverse else counts).find? fun count =>
    fits pattern (text.take count)
  text.drop (count?.getD 0)

/-- The start of a text without the shortest end of it, or the longest, that fits a pattern. -/
def withoutBack (pattern : Pattern) (longest : Bool) (text : List Char) : List Char :=
  let counts := List.range (text.length + 1)
  let count? := (if longest then counts else counts.reverse).find? fun count =>
    fits pattern (text.drop count)
  text.take (count?.getD text.length)

end Pattern

end TapeAdmin.Shell
