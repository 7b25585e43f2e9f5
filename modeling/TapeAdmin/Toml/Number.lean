import TapeAdmin.Text.Decimal
import TapeAdmin.Toml.Reader

/-!
# TOML numbers

Whole numbers in bases ten, sixteen, eight and two, with underscores between digits, and
floating-point numbers.
-/

namespace TapeAdmin.Toml.Reader

/-- Takes a digit of a base. -/
def digit (base : Nat) : Reader Unit :=
  discard (one fun char => (Text.digitValue? base char).isSome)

/-- Takes the digits after the first, with single underscores between them. -/
def moreDigits (base : Nat) : Reader Unit :=
  discard (many (either (digit base) (do expect "_"; final (wanting "digit" (digit base)))))

/-- Takes digits, which may start with zeros. -/
def digits (base : Nat) : Reader Unit := do
  digit base
  moreDigits base

/-- Takes a sign. -/
def sign : Reader Char :=
  one fun char => char == '+' || char == '-'

/-- Takes a whole number in base ten: a zero at its start is never followed by another digit. -/
def decimalDigits : Reader Unit :=
  named "integer" do
    discard (attempt sign)
    match ← peek? with
    | some '0' => digit 10
    | _ => digits 10

/-- The whole number of some characters, which must fit into 64 bits with its sign. -/
def integerOf (base : Nat) (chars : List Char) : Except String Int :=
  let (negative, unsigned) := Text.Decimal.takeSign (chars.filter (· != '_'))
  match Text.ofDigits? base unsigned with
  | none => .error Text.NumberFault.invalidDigit.message
  | some size =>
    if negative then
      if size ≤ 1 <<< 63 then .ok (-(size : Int)) else .error Text.NumberFault.tooSmall.message
    else if size < 1 <<< 63 then .ok size
    else .error Text.NumberFault.tooLarge.message

/-- A whole number in a base that a word announces. -/
def basedInteger (base : Nat) (announced label : String) : Reader Int :=
  final (refine (named label do expect announced; taken (final (digits base))) (integerOf base))

/-- A whole number. -/
def integer : Reader Int := do
  match (← remaining).take 2 with
  | ['0', 'x'] => basedInteger 16 "0x" "hexadecimal integer"
  | ['0', 'o'] => basedInteger 8 "0o" "octal integer"
  | ['0', 'b'] => basedInteger 2 "0b" "binary integer"
  | _ => do
    let place ← here
    let chars ← taken decimalDigits
    match integerOf 10 chars with
    | .ok number => pure number
    | .error cause => final (blame place cause)

/-- Takes an exponent. -/
def exponent : Reader Unit := do
  discard (one fun char => char == 'e' || char == 'E')
  discard (attempt sign)
  final (digits 10)

/-- Takes a point and the digits after it. -/
def fraction : Reader Unit := do
  expect "."
  final (wanting "digit" (digits 10))

/-- Takes a number with a fraction, an exponent or both. -/
def decimalFraction : Reader Unit := do
  decimalDigits
  either exponent (do fraction; discard (attempt exponent))

/-- A number with a fraction, as the nearest double. No number may be past the largest double; one
below the smallest is infinite. -/
def finiteFloat : Reader Text.Double := do
  let place ← here
  let chars ← taken decimalFraction
  match (Text.Decimal.ofChars? (chars.filter (· != '_'))).map Text.Decimal.toDouble with
  | some (.infinite false) | none => final (mismatchAt place)
  | some number => pure number

/-- The words `inf` and `nan` where a value is due. -/
def specialFloat : Reader Text.Double :=
  either (do expect "inf"; pure (.infinite false)) (do expect "nan"; pure .notANumber)

/-- A floating-point number. -/
def float : Reader Text.Double :=
  named "floating-point number" (either finiteFloat do
    let mark ← attempt sign
    match ← specialFloat with
    | .infinite _ => pure (.infinite (mark == some '-'))
    | other => pure other)

end TapeAdmin.Toml.Reader
