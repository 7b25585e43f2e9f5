import TapeAdmin.Shell.Number
import TapeAdmin.Text.Decimal

/-!
# Numbers with a fraction

Reads numbers with a fraction, rounds them to a number of binary digits, and writes them with a
given number of digits. All of it is exact arithmetic on whole numbers.
-/

namespace TapeAdmin.Shell

/-- A number with a fraction, or one of the values that are none. -/
inductive Real where
  | notANumber (negative : Bool)
  | infinite (negative : Bool)
  /-- The number `significand * 2 ^ exponent`, negated if `negative` is set. -/
  | finite (negative : Bool) (significand : Nat) (exponent : Int)
  deriving DecidableEq, Repr

/-- How many binary digits a kind of number has, and the range of its exponent. -/
structure RealFormat where
  digits : Nat
  /-- The exponent of the last binary digit of the numbers nearest to zero. -/
  smallestExponent : Int
  /-- The exponent of the last binary digit of the largest numbers. -/
  largestExponent : Int
  deriving DecidableEq, Repr

/-- Numbers of 64 bits. -/
def RealFormat.double : RealFormat where
  digits := 53
  smallestExponent := -1074
  largestExponent := 971

/-- Numbers of 80 bits. -/
def RealFormat.extended : RealFormat where
  digits := 64
  smallestExponent := -16445
  largestExponent := 16320

namespace Real

/-- Whether a number has a minus sign. -/
def isNegative : Real → Bool
  | .notANumber negative | .infinite negative | .finite negative _ _ => negative

/-- A fraction with its sign, rounded to a format. -/
def ofFraction (format : RealFormat) (negative : Bool) (numerator denominator : Nat) : Real :=
  let size : Int := (numerator.log2 : Int) - (denominator.log2 : Int) - format.digits
  let low := max size format.smallestExponent
  let at' (exponent : Int) : Nat := Text.significandAt numerator denominator exponent
  let exponent := if at' low ≤ 1 <<< format.digits then low else low + 1
  let significand := at' exponent
  if format.largestExponent < exponent ||
      (exponent == format.largestExponent && significand == 1 <<< format.digits) then
    .infinite negative
  else .finite negative significand exponent

/-- A magnitude with more digits than this before the point is past every number, and one with more
zeros than this after the point is zero. -/
def largestOrder : Nat := 6000

/-- A decimal number, rounded to a format. -/
def ofDecimal (format : RealFormat) (decimal : Text.Decimal) : Real :=
  if decimal.significand = 0 || decimal.order < -(largestOrder : Int) then
    .finite decimal.negative 0 0
  else if (largestOrder : Int) < decimal.order then .infinite decimal.negative
  else
    let (numerator, denominator) := decimal.fraction
    ofFraction format decimal.negative numerator denominator

/-- The hexadecimal number after its mark, rounded to a format, and what follows it. -/
def takeHexadecimal? (format : RealFormat) (negative : Bool) (chars : List Char) :
    Option (Real × List Char) :=
  let isDigit (char : Char) : Bool := (Text.digitValue? 16 char).isSome
  let whole := chars.takeWhile isDigit
  let (fraction, rest) :=
    match chars.drop whole.length with
    | '.' :: tail =>
      let fraction := tail.takeWhile isDigit
      (fraction, tail.drop fraction.length)
    | tail => ([], tail)
  (Text.ofDigits? 16 (whole ++ fraction)).map fun significand =>
    let (exponent, rest') : Int × List Char :=
      match rest with
      | mark :: tail =>
        if mark == 'p' || mark == 'P' then
          let (isDown, unsigned) := takeSign tail
          let digits := unsigned.takeWhile Char.isDigit
          match Text.ofDigits? 10 digits with
          | some size => (if isDown then -(size : Int) else size, unsigned.drop digits.length)
          | none => (0, rest)
        else (0, rest)
      | [] => (0, [])
    let scale := exponent - 4 * fraction.length
    let order : Int := (significand.log2 : Int) + scale
    let value : Real :=
      if significand = 0 || order < -20000 then .finite negative 0 0
      else if 20000 < order then .infinite negative
      else
        match scale with
        | .ofNat up => ofFraction format negative (significand <<< up) 1
        | .negSucc down => ofFraction format negative significand (1 <<< (down + 1))
    (value, rest')

/-- What follows a word in a text, in either letter case. -/
def afterWord? (word : String) (chars : List Char) : Option (List Char) :=
  let length := word.length
  if (chars.take length).map Char.toLower == word.toList then some (chars.drop length) else none

/-- What follows the digits in parentheses that may stand after the word for no number. -/
def afterNotANumber (chars : List Char) : List Char :=
  match chars with
  | '(' :: rest =>
    match rest.dropWhile fun char => char.isAlphanum || char == '_' with
    | ')' :: rest => rest
    | _ => chars
  | _ => chars

/-- The number at the start of a text, rounded to a format, and what follows it. -/
def read? (format : RealFormat) (text : List Char) : Option (Real × List Char) :=
  let start := text.dropWhile isBlank
  let (negative, unsigned) := takeSign start
  match (afterWord? "infinity" unsigned) <|> (afterWord? "inf" unsigned) with
  | some rest => some (.infinite negative, rest)
  | none =>
    match afterWord? "nan" unsigned with
    | some rest => some (.notANumber negative, afterNotANumber rest)
    | none =>
      let hexadecimal? :=
        match unsigned with
        | '0' :: mark :: tail =>
          if mark == 'x' || mark == 'X' then takeHexadecimal? format negative tail else none
        | _ => none
      hexadecimal? <|>
        (Text.Decimal.takeFront? start).map fun (decimal, rest) => (ofDecimal format decimal, rest)

/-- The magnitude of `significand * 2 ^ exponent` as a numerator and a denominator. -/
def fraction (significand : Nat) (exponent : Int) : Nat × Nat :=
  Text.dyadicFraction significand exponent

/-- Digits with a point in front of the last `places`. -/
def withPoint (places : Nat) (keepsPoint : Bool) (number : Nat) : List Char :=
  let digits := Nat.toDigits 10 number
  let digits := List.replicate (places + 1 - digits.length) '0' ++ digits
  let whole := digits.take (digits.length - places)
  if places = 0 then whole ++ if keepsPoint then ['.'] else []
  else whole ++ '.' :: digits.drop (digits.length - places)

/-- A fraction with a given number of places after the point. -/
def fixed (places : Nat) (keepsPoint : Bool) (numerator denominator : Nat) : List Char :=
  withPoint places keepsPoint (Text.roundHalfEven (numerator * Nat.pow 10 places) denominator)

/-- A fraction as digits, one of which stands in front of the point, and a power of ten. -/
def scaled (places : Nat) (numerator denominator : Nat) : Nat × Int :=
  if numerator = 0 then (0, 0)
  else
    let digitsAt (power : Int) : Nat :=
      let shift : Int := places - power
      match shift with
      | .ofNat up => Text.roundHalfEven (numerator * Nat.pow 10 up) denominator
      | .negSucc down => Text.roundHalfEven numerator (denominator * Nat.pow 10 (down + 1))
    let reaches (power : Int) : Bool :=
      match power with
      | .ofNat up => denominator * Nat.pow 10 up ≤ numerator
      | .negSucc down => denominator ≤ numerator * Nat.pow 10 (down + 1)
    let guess : Int :=
      ((Nat.toDigits 10 numerator).length : Int) - ((Nat.toDigits 10 denominator).length : Int)
    let power := if reaches guess then guess else guess - 1
    let number := digitsAt power
    if number < Nat.pow 10 (places + 1) then (number, power) else (number / 10, power + 1)

/-- A power of ten as it stands after the digits. -/
def powerText (power : Int) : List Char :=
  let digits := Nat.toDigits 10 power.natAbs
  'e' :: (if power < 0 then '-' else '+') :: (List.replicate (2 - digits.length) '0' ++ digits)

/-- A fraction with one digit in front of the point and a power of ten. -/
def scientific (places : Nat) (keepsPoint : Bool) (numerator denominator : Nat) : List Char :=
  let (number, power) := scaled places numerator denominator
  withPoint places keepsPoint number ++ powerText power

/-- Digits without the zeros at the end of the part after the point. -/
def withoutZeros (chars : List Char) : List Char :=
  if chars.contains '.' then
    let trimmed := (chars.reverse.dropWhile (· == '0')).reverse
    if trimmed.getLast? == some '.' then trimmed.dropLast else trimmed
  else chars

/-- A fraction with a given number of digits, in whichever of the two forms suits its size. -/
def general (digits : Nat) (keepsZeros : Bool) (numerator denominator : Nat) : List Char :=
  let digits := max digits 1
  let (number, power) := scaled (digits - 1) numerator denominator
  let trim := if keepsZeros then id else withoutZeros
  if -4 ≤ power && power < digits then
    trim (fixed ((digits : Int) - 1 - power).toNat keepsZeros numerator denominator)
  else trim (withPoint (digits - 1) keepsZeros number) ++ powerText power

/-- A number in base sixteen with a power of two; `format` says how many digits stand after the
point if they are not limited. A significand that rounding has made one digit longer is halved. -/
def hexadecimal (format : RealFormat) (places : Option Nat) (keepsPoint : Bool)
    (significand : Nat) (exponent : Int) : List Char :=
  let isFull := significand = 1 <<< format.digits
  let exponent := if isFull then exponent + 1 else exponent
  let significand := if isFull then significand / 2 else significand
  let lead : Nat := if format.digits % 4 = 0 then 4 else format.digits % 4
  let shown := (format.digits - lead) / 4
  let missing := format.digits - 1 - significand.log2
  let power : Int := exponent - missing + 4 * shown
  let full := significand <<< missing
  let (number, count) :=
    if significand = 0 then (0, places.getD 0)
    else
      match places with
      | some places =>
        if places < shown then (Text.roundHalfEven full (Nat.pow 16 (shown - places)), places)
        else (full * Nat.pow 16 (places - shown), places)
      | none => (full, shown)
  let isCarried := Nat.pow 16 (count + 1) ≤ number
  let number := if isCarried then number / 16 else number
  let power := if isCarried then power + 4 else power
  let digits := Nat.toDigits 16 number
  let digits := List.replicate (count + 1 - digits.length) '0' ++ digits
  let whole := digits.take (digits.length - count)
  let after := digits.drop (digits.length - count)
  let after := if places.isNone then (after.reverse.dropWhile (· == '0')).reverse else after
  let power := if significand = 0 then 0 else power
  ['0', 'x'] ++ whole ++ (if after.isEmpty && !keepsPoint then [] else '.' :: after) ++
    'p' :: (if power < 0 then '-' else '+') :: Nat.toDigits 10 power.natAbs

end Real

end TapeAdmin.Shell
