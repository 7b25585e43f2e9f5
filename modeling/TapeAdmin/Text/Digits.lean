/-!
# Digits

Reading and writing numbers in base ten and sixteen. Reading a bounded number tells apart the three
ways in which it can fail, because messages quote them.
-/

namespace TapeAdmin.Text

/-- Why a text is no number of the wanted width. -/
inductive NumberFault where
  | empty
  | invalidDigit
  | tooLarge
  | tooSmall
  deriving DecidableEq, Repr

/-- The wording of a number fault. -/
def NumberFault.message : NumberFault → String
  | .empty => "cannot parse integer from empty string"
  | .invalidDigit => "invalid digit found in string"
  | .tooLarge => "number too large to fit in target type"
  | .tooSmall => "number too small to fit in target type"

/-- The value of a digit in base ten or sixteen, in either letter case. -/
def digitValue? (base : Nat) (char : Char) : Option Nat :=
  let value? :=
    if '0' ≤ char ∧ char ≤ '9' then some (char.toNat - '0'.toNat)
    else if 'a' ≤ char ∧ char ≤ 'f' then some (char.toNat - 'a'.toNat + 10)
    else if 'A' ≤ char ∧ char ≤ 'F' then some (char.toNat - 'A'.toNat + 10)
    else none
  value?.filter (· < base)

/-- The number that the digits after `value` make of it. -/
def digitsFrom? (base : Nat) (value : Nat) : List Char → Option Nat
  | [] => some value
  | char :: chars => do digitsFrom? base (value * base + (← digitValue? base char)) chars

/-- The number that a non-empty list of digits denotes. -/
def ofDigits? (base : Nat) (chars : List Char) : Option Nat :=
  if chars.isEmpty then none else digitsFrom? base 0 chars

/--
The bounded number that the digits after `value` make of it: the first character that is no digit,
or the first digit that takes the number past `limit`, decides the fault.
-/
def boundedFrom (base limit value : Nat) : List Char → Except NumberFault Nat
  | [] => .ok value
  | char :: chars =>
    match digitValue? base char with
    | none => .error .invalidDigit
    | some digit =>
      if limit < value * base + digit then .error .tooLarge
      else boundedFrom base limit (value * base + digit) chars

/-- Reads an unsigned number of at most `limit`, with an optional plus sign. -/
def readBounded (base limit : Nat) (text : String) : Except NumberFault Nat :=
  match text.toList with
  | [] => .error .empty
  | ['+'] => .error .invalidDigit
  | ['-'] => .error .invalidDigit
  | '+' :: digits => boundedFrom base limit 0 digits
  | digits => boundedFrom base limit 0 digits

/-- The lower-case digit of a value below sixteen. -/
def hexDigit (value : Nat) : Char :=
  if value < 10 then Char.ofNat ('0'.toNat + value) else Char.ofNat ('a'.toNat + (value - 10))

/-- The upper-case digit of a value below sixteen. -/
def hexDigitUpper (value : Nat) : Char :=
  if value < 10 then Char.ofNat ('0'.toNat + value) else Char.ofNat ('A'.toNat + (value - 10))

/-- A byte as two lower-case hexadecimal digits. -/
def hexByte (byte : UInt8) : List Char :=
  [hexDigit (byte.toNat / 16), hexDigit (byte.toNat % 16)]

/-- Bytes as lower-case hexadecimal digits, two for each byte. -/
def hexBytes (bytes : List UInt8) : String :=
  String.ofList (bytes.flatMap hexByte)

end TapeAdmin.Text
