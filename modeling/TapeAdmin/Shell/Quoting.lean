import TapeAdmin.Shell.Octets
import TapeAdmin.Text.Digits

/-!
# Quoting

How the tools show a text in their messages, and how `printf` writes a text so that the shell reads
it back. A text is quoted character by character; a byte that belongs to no character is shown by
its number in base eight.
-/

namespace TapeAdmin.Shell

namespace Quoting

/-- The letter that stands for a control character after a backslash. -/
def controlLetter? : Char → Option Char
  | '\x07' => some 'a'
  | '\x08' => some 'b'
  | '\x0c' => some 'f'
  | '\n' => some 'n'
  | '\r' => some 'r'
  | '\t' => some 't'
  | '\x0b' => some 'v'
  | _ => none

/-- A byte as a backslash and three digits in base eight. -/
def octal (byte : UInt8) : List Char :=
  let digits := Nat.toDigits 8 byte.toNat
  '\\' :: (List.replicate (3 - digits.length) '0' ++ digits)

/-- Whether a character can be shown as it is. -/
def isShown (char : Char) : Bool :=
  32 ≤ char.toNat && char.toNat != 127 && !(128 ≤ char.toNat && char.toNat < 160)

/-- A character of a text, or a byte that belongs to none. -/
inductive Piece where
  | shown (char : Char)
  | escaped (text : List Char)
  deriving DecidableEq, Repr

/-- The piece that a character is. -/
def pieceOf (char : Char) : List Piece :=
  if isShown char then [.shown char]
  else
    match controlLetter? char with
    | some letter => [.escaped ['\\', letter]]
    | none => (String.utf8EncodeChar char).map fun byte => .escaped (octal byte)

/-- The pieces of bytes; `fuel` bounds their number. -/
def pieces : Nat → List UInt8 → List Piece
  | 0, _ => []
  | _, [] => []
  | fuel + 1, first :: rest =>
    match Text.utf8Head first rest with
    | .char char rest' => pieceOf char ++ pieces fuel rest'
    | .malformed _ => .escaped (octal first) :: pieces fuel rest

/-- The pieces of a text. -/
def piecesOf (text : Octets) : List Piece :=
  pieces text.bytes.length text.bytes

/-- A text between quotes, as messages show it. -/
def inMessage (text : Octets) : Octets :=
  let shown := (piecesOf text).flatMap fun
    | .shown '\\' => ['\\', '\\']
    | .shown '’' => ['\\', '’']
    | .shown char => [char]
    | .escaped escape => escape
  Octets.ofText ("‘" ++ String.ofList shown ++ "’")

/-- A character that the shell takes as it is between double quotes. -/
def isPlainInDoubleQuotes (char : Char) : Bool :=
  char.isAlphanum || ['%', '+', ',', '-', '.', '/', ':', ']', '_', '@', ' ', '\''].contains char ||
    128 ≤ char.toNat

/-- Whether a character at a place of a text asks for quotes. -/
def needsQuotes (isFirst isOnly : Bool) (char : Char) : Bool :=
  if char == '\x7b' || char == '\x7d' then isOnly
  else if char == '#' || char == '~' then isFirst
  else [' ', '!', '"', '$', '&', '(', ')', '*', ';', '<', '=', '>', '[', '^', '\x60', '|', '\'',
    '?', '\\'].contains char

/-- Whether a piece at a place of a text asks for quotes. -/
def Piece.needsQuotes (isFirst isOnly : Bool) : Piece → Bool
  | .shown char => Quoting.needsQuotes isFirst isOnly char
  | .escaped _ => true

/-- The pieces of a text between single quotes; `isOpen` says that the quotes are open for escapes.
-/
def singleQuoted (isOpen : Bool) : List Piece → List Char
  | [] => []
  | .shown '\'' :: rest => ['\'', '\\', '\'', '\''] ++ singleQuoted false rest
  | .shown char :: rest => (if isOpen then ['\'', '\''] else []) ++ char :: singleQuoted false rest
  | .escaped escape :: rest =>
    (if isOpen then [] else ['\'', '$', '\'']) ++ escape ++ singleQuoted true rest

/-- A text as a word that the shell reads back. -/
def asWord (text : Octets) : Octets :=
  let pieces := piecesOf text
  let isOnly := pieces.length == 1
  let asks :=
    match pieces with
    | [] => true
    | first :: rest =>
      first.needsQuotes true isOnly || rest.any (Piece.needsQuotes false isOnly)
  let isPlain := pieces.all fun
    | .shown char => isPlainInDoubleQuotes char
    | .escaped _ => false
  if !asks then text
  else if pieces.contains (.shown '\'') && isPlain then "\"" ++ text ++ "\""
  else Octets.ofText (String.ofList ('\'' :: singleQuoted false pieces ++ ['\'']))

end Quoting

end TapeAdmin.Shell
