import TapeAdmin.Text.Digits
import TapeAdmin.Shell.Octets

/-!
# Numbers in texts

Reads the number at the start of a text, the way the tools do: after blanks, with a sign, and with
the base that the text shows if none is given. A number past the range of 64 bits becomes the end of
the range.
-/

namespace TapeAdmin.Shell

/-- The largest number of 64 bits with a sign. -/
def largestInteger : Int := Int64.maxValue.toInt

/-- The smallest number of 64 bits with a sign. -/
def smallestInteger : Int := Int64.minValue.toInt

/-- A character that is passed over in front of numbers. -/
def isBlank (char : Char) : Bool :=
  char == ' ' || (9 ≤ char.toNat && char.toNat ≤ 13)

/-- The number at the start of a text. -/
structure NumberReading where
  value : Int
  /-- What follows the number. -/
  rest : List Char
  /-- Whether there is a number at all. -/
  found : Bool
  /-- Whether the number is past the range. -/
  isPast : Bool
  deriving Repr

/-- The sign at the start of a text, and what follows it. -/
def takeSign : List Char → Bool × List Char
  | '-' :: chars => (true, chars)
  | '+' :: chars => (false, chars)
  | chars => (false, chars)

/-- The base of the number at the start of a text, and where its digits start. -/
def takeBase (base : Nat) (chars : List Char) : Nat × List Char :=
  let isHexadecimal :=
    match chars with
    | '0' :: mark :: digit :: _ =>
      (mark == 'x' || mark == 'X') && (Text.digitValue? 16 digit).isSome
    | _ => false
  if (base == 0 || base == 16) && isHexadecimal then (16, chars.drop 2)
  else if base == 0 then (if chars.head? == some '0' then 8 else 10, chars)
  else (base, chars)

/-- Reads the number at the start of a text between two ends of a range; base zero takes the base
from the text. -/
def readNumber (smallest largest : Int) (base : Nat) (text : List Char) : NumberReading :=
  let (negative, unsigned) := takeSign (text.dropWhile isBlank)
  let (base, start) := takeBase base unsigned
  let digits := start.takeWhile fun char => (Text.digitValue? base char).isSome
  match Text.ofDigits? base digits with
  | none => { value := 0, rest := text, found := false, isPast := false }
  | some size =>
    let value : Int := if negative then -size else size
    let rest := start.drop digits.length
    if value < smallest then { value := smallest, rest, found := true, isPast := true }
    else if largest < value then { value := largest, rest, found := true, isPast := true }
    else { value, rest, found := true, isPast := false }

/-- Reads the number with a sign at the start of a text. -/
def readInteger (base : Nat) (text : List Char) : NumberReading :=
  readNumber smallestInteger largestInteger base text

/-- Reads the number without a sign at the start of a text; a negative one counts from the end, and
one that is past the range is the largest. -/
def readUnsigned (base : Nat) (text : List Char) : NumberReading :=
  let count : Int := UInt64.size
  let reading := readNumber (1 - count) (count - 1) base text
  { reading with value := if reading.isPast then count - 1 else reading.value % count }

/-- The number of 64 bits that a text is, with blanks around it. A blank text is none unless the
base is taken from the text. -/
def integer? (base : Nat) (text : Octets) : Option Int :=
  let reading := readInteger base text.toList
  if reading.isPast || (base != 0 && !reading.found) then none
  else if (reading.rest.dropWhile isBlank).isEmpty then some reading.value
  else none

/-- A count, as the commands of the shell take it. -/
def count? (text : Octets) : Option Nat :=
  match integer? 10 text with
  | some (.ofNat count) => if count < 1 <<< 31 then some count else none
  | _ => none

end TapeAdmin.Shell
