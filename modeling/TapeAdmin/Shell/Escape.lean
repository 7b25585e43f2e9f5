import TapeAdmin.Shell.Octets
import TapeAdmin.Text.Digits

/-!
# Backslash escapes

The escapes that `echo` and `printf` know. Those of the shell itself and those of the tools of the
same names differ in a few points, which an `EscapeStyle` lists.
-/

namespace TapeAdmin.Shell

/-- Which escapes are known. -/
structure EscapeStyle where
  /-- Nothing is written after `\c`. -/
  stops : Bool := true
  /-- A zero in front of digits in base eight is not one of them. -/
  leadingZero : Bool := true
  /-- A byte can be written in base sixteen. -/
  hexadecimal : Bool := false
  /-- A character can be written by its number. -/
  unicode : Bool := false
  /-- A mark of base sixteen without digits is a fault. -/
  strict : Bool := false
  /-- A double quote can be escaped. -/
  doubleQuote : Bool := false
  /-- The character after a backslash that escapes nothing has no other meaning. -/
  keepsNext : Bool := false
  deriving DecidableEq, Repr

namespace EscapeStyle

/-- The escapes in the arguments of the commands of the shell. -/
def shellArgument : EscapeStyle := {}

/-- The escapes in the format of the shell's own `printf`. -/
def shellFormat : EscapeStyle where
  stops := false
  leadingZero := false

/-- The escapes in the arguments of the tool `echo`. -/
def toolEcho : EscapeStyle where
  hexadecimal := true

/-- The escapes in the arguments of the tool `printf`. -/
def toolArgument : EscapeStyle where
  hexadecimal := true
  unicode := true
  strict := true
  doubleQuote := true
  keepsNext := true

/-- The escapes in the format of the tool `printf`. -/
def toolFormat : EscapeStyle :=
  { toolArgument with leadingZero := false }

end EscapeStyle

/-- The character that a letter after a backslash stands for. -/
def letterEscape? : Char → Option Char
  | 'a' => some '\x07'
  | 'b' => some '\x08'
  | 'e' => some '\x1b'
  | 'f' => some '\x0c'
  | 'n' => some '\n'
  | 'r' => some '\r'
  | 't' => some '\t'
  | 'v' => some '\x0b'
  | '\\' => some '\\'
  | _ => none

/-- A digit in base eight. -/
def isOctal (char : Char) : Bool :=
  '0' ≤ char && char ≤ '7'

/-- A digit in base sixteen. -/
def isHex (char : Char) : Bool :=
  (Text.digitValue? 16 char).isSome

/-- Up to `count` digits at the start of a list, and the rest. -/
def digitRun (isDigit : Char → Bool) : Nat → List Char → List Char × List Char
  | 0, chars => ([], chars)
  | _, [] => ([], [])
  | count + 1, char :: chars =>
    if isDigit char then
      let (digits, rest) := digitRun isDigit count chars
      (char :: digits, rest)
    else ([], char :: chars)

theorem digitRun_rest_length_le (isDigit : Char → Bool) (count : Nat) (chars : List Char) :
    (digitRun isDigit count chars).2.length ≤ chars.length := by
  induction count generalizing chars with
  | zero => simp [digitRun]
  | succ count step =>
    cases chars with
    | nil => simp [digitRun]
    | cons char chars =>
      simp only [digitRun]
      split
      · have := step chars
        simp only [List.length_cons]
        omega
      · simp

/-- The character that digits denote in a base; a number past a byte loses its high bits. -/
def byteOf (base : Nat) (digits : List Char) : Char :=
  Octets.char (UInt8.ofNat ((Text.ofDigits? base digits).getD 0))

/-- Why an escape means nothing. -/
inductive EscapeFault where
  | missingDigits
  /-- No character has the number that these digits denote, after this mark. -/
  | noCharacter (mark : Char) (digits : List Char)
  deriving DecidableEq, Repr

/-- The wording of a fault in an escape. -/
def EscapeFault.message : EscapeFault → String
  | .missingDigits => "missing hexadecimal number in escape"
  | .noCharacter mark digits =>
    "invalid universal character name \\" ++ String.ofList (mark :: digits.map Char.toLower)

/-- What a backslash and the characters after it stand for. -/
inductive EscapeReading where
  | chars (chars : List Char) (rest : List Char)
  /-- Nothing is written from here on. -/
  | stop
  | fault (fault : EscapeFault)

/-- The number of the last character. -/
def lastCharacter : Nat := 0x10FFFF

/-- The number of the last control character. -/
def lastControl : Nat := 0x9F

/-- The characters below the last control character that may be written by their numbers: the
dollar, the at sign and the backquote. All others there are written as themselves or by their bytes.
-/
def namedBelowControl : List Nat := [0x24, 0x40, 0x60]

/-- Whether a number cannot stand for a character: the character is written in other ways, or the
number is half of a pair. -/
def isUnnameable (number : Nat) : Bool :=
  (number ≤ lastControl && !namedBelowControl.contains number) ||
    (0xD800 ≤ number && number ≤ 0xDFFF)

/-- Reads the number of a character after its mark, which has a given number of digits. -/
def readUnicode (mark : Char) (count : Nat) (chars : List Char) : EscapeReading :=
  let (digits, rest) := digitRun isHex count chars
  if digits.length < count then .fault .missingDigits
  else
    let number := (Text.ofDigits? 16 digits).getD 0
    if isUnnameable number then .fault (.noCharacter mark digits)
    else if lastCharacter < number then .chars ('\\' :: 'U' :: digits.map Char.toUpper) rest
    else .chars (Octets.ofText (Char.ofNat number).toString).toList rest

/-- Reads the characters after a backslash. What is no escape stays as it is. -/
def readEscape (style : EscapeStyle) (chars : List Char) : EscapeReading :=
  match chars with
  | [] => .chars ['\\'] []
  | char :: rest =>
    if char == 'c' && style.stops then .stop
    else
      match letterEscape? char with
      | some escaped => .chars [escaped] rest
      | none =>
        if isOctal char then
          let run := digitRun isOctal 3 (if style.leadingZero && char == '0' then rest else chars)
          .chars [byteOf 8 run.1] run.2
        else if char == 'x' && style.hexadecimal then
          let run := digitRun isHex 2 rest
          if !run.1.isEmpty then .chars [byteOf 16 run.1] run.2
          else if style.strict then .fault .missingDigits
          else .chars ['\\'] chars
        else if char == 'u' && style.unicode then readUnicode 'u' 4 rest
        else if char == 'U' && style.unicode then readUnicode 'U' 8 rest
        else if char == '"' && style.doubleQuote then .chars ['"'] rest
        else if style.keepsNext then .chars ['\\', char] rest
        else .chars ['\\'] chars

/-- The characters that remain after an escape. -/
def EscapeReading.rest : EscapeReading → List Char
  | .chars _ rest => rest
  | .stop | .fault _ => []

theorem readUnicode_rest_length_le (mark : Char) (count : Nat) (chars : List Char) :
    (readUnicode mark count chars).rest.length ≤ chars.length := by
  have run := digitRun_rest_length_le isHex count chars
  unfold readUnicode
  grind [EscapeReading.rest]

theorem readEscape_rest_length_le (style : EscapeStyle) (chars : List Char) :
    (readEscape style chars).rest.length ≤ chars.length := by
  unfold readEscape
  have run := digitRun_rest_length_le
  have unicode := readUnicode_rest_length_le
  split
  · simp [EscapeReading.rest]
  · rename_i char rest
    have octalAll := run isOctal 3 (char :: rest)
    have octalRest := run isOctal 3 rest
    have hexTwo := run isHex 2 rest
    have four := unicode 'u' 4 rest
    have eight := unicode 'U' 8 rest
    simp only [List.length_cons] at *
    grind [EscapeReading.rest]

/-- How the resolving of escapes ends. -/
inductive EscapeEnd where
  | complete
  | stopped
  | failed (fault : EscapeFault)
  deriving DecidableEq, Repr

/-- A text with its escapes resolved, up to where an escape cuts it off. -/
def unescape (style : EscapeStyle) : List Char → List Char × EscapeEnd
  | [] => ([], .complete)
  | char :: chars =>
    if char = '\\' then
      match reading : readEscape style chars with
      | .stop => ([], .stopped)
      | .fault fault => ([], .failed fault)
      | .chars resolved rest =>
        have : rest.length ≤ chars.length := by
          have := readEscape_rest_length_le style chars
          rw [reading] at this
          exact this
        let (more, ending) := unescape style rest
        (resolved ++ more, ending)
    else
      let (more, ending) := unescape style chars
      (char :: more, ending)
termination_by chars => chars.length
decreasing_by all_goals simp only [List.length_cons]; omega

end TapeAdmin.Shell
