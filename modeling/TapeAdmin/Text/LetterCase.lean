import TapeAdmin.Text.Cased

/-!
# Letter case

Comparison of texts without regard to letter case. Texts are lowered as a whole, as the small letter
of a capital sigma depends on where in a word it stands. They are raised character by character.
-/

namespace TapeAdmin.Text

/-- The lower case of a character by itself; only the capital i with a dot yields two characters. -/
def lowerChar (char : Char) : List Char :=
  if char = '\u0130' then ['i', '\u0307'] else [small char]

/-- Whether the first character that is not passed over is a letter with case. -/
def meetsCased (chars : List Char) : Bool :=
  match chars.dropWhile isCaseIgnored with
  | char :: _ => isCased char
  | [] => false

/-- The lower case of characters behind others, which are given in reverse. A capital sigma that
ends a word has a small letter of its own. -/
def lowerBehind (before : List Char) : List Char → List Char
  | [] => []
  | char :: rest =>
    if char = 'Σ' then
      (if meetsCased before && !meetsCased rest then 'ς' else 'σ') ::
        lowerBehind (char :: before) rest
    else lowerChar char ++ lowerBehind (char :: before) rest

/-- A text in lower case. -/
def lower (text : String) : List Char :=
  lowerBehind [] text.toList

/-- The upper case of a character. -/
def upperChar (char : Char) : List Char :=
  match spelledOut.lookup char.toNat with
  | some codes => codes.map Char.ofNat
  | none => [capital char]

/-- A text in upper case. -/
def upper (text : String) : List Char :=
  text.toList.flatMap upperChar

end TapeAdmin.Text
