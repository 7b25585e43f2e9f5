/-!
# Blank characters

The characters of the Unicode property `White_Space`, and the trimming of a text by them. Every
message that quotes the output of a tool trims it this way, so a no-break space around the message
disappears exactly like an ordinary space.
-/

namespace TapeAdmin.Text

/-- Membership in the Unicode property `White_Space`. -/
def isBlank (char : Char) : Bool :=
  let code := char.toNat
  (0x09 ≤ code && code ≤ 0x0D) || code == 0x20 || code == 0x85 || code == 0xA0 || code == 0x1680 ||
    (0x2000 ≤ code && code ≤ 0x200A) || code == 0x2028 || code == 0x2029 || code == 0x202F ||
    code == 0x205F || code == 0x3000

/-- Removes the characters in `drop` from the end of a list of characters. -/
def dropEndWhile (drop : Char → Bool) (chars : List Char) : List Char :=
  (chars.reverse.dropWhile drop).reverse

/-- A text without the blank characters at its end. -/
def trimEnd (text : String) : String :=
  String.ofList (dropEndWhile isBlank text.toList)

/-- A text without the blank characters at its start. -/
def trimStart (text : String) : String :=
  String.ofList (text.toList.dropWhile isBlank)

/-- A text without the blank characters at either end. -/
def trim (text : String) : String :=
  trimEnd (trimStart text)

end TapeAdmin.Text
