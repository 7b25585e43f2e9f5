import TapeAdmin.Text.Digits
import TapeAdmin.Text.Double

/-!
# Decimal numbers

A decimal number as it is written: digits, perhaps with a point among them, perhaps with an
exponent. It is kept exactly, as a whole number times a power of ten.
-/

namespace TapeAdmin.Text

/-- The number `significand * 10 ^ scale`, negated if `negative` is set. -/
structure Decimal where
  negative : Bool
  significand : Nat
  scale : Int
  deriving DecidableEq, Repr

namespace Decimal

/-- The sign at the start of a list, if there is one, and the characters after it. -/
def takeSign : List Char → Bool × List Char
  | '-' :: chars => (true, chars)
  | '+' :: chars => (false, chars)
  | chars => (false, chars)

/-- The exponent at the start of a list, and the characters after it; without digits there is none.
-/
def takeExponent (chars : List Char) : Int × List Char :=
  match chars with
  | mark :: rest =>
    if mark == 'e' || mark == 'E' then
      let (negative, rest') := takeSign rest
      let digits := rest'.takeWhile Char.isDigit
      match ofDigits? 10 digits with
      | some size => (if negative then -(size : Int) else size, rest'.drop digits.length)
      | none => (0, chars)
    else (0, chars)
  | [] => (0, [])

/-- The decimal number at the start of a list, and the characters after it. -/
def takeFront? (chars : List Char) : Option (Decimal × List Char) :=
  let (negative, unsigned) := takeSign chars
  let whole := unsigned.takeWhile Char.isDigit
  let (fraction, rest) :=
    match unsigned.drop whole.length with
    | '.' :: tail =>
      let fraction := tail.takeWhile Char.isDigit
      (fraction,
        if whole.isEmpty && fraction.isEmpty then '.' :: tail else tail.drop fraction.length)
    | tail => ([], tail)
  (ofDigits? 10 (whole ++ fraction)).map fun significand =>
    let (exponent, rest') := takeExponent rest
    (⟨negative, significand, exponent - fraction.length⟩, rest')

/-- The decimal number that a list of characters is. -/
def ofChars? (chars : List Char) : Option Decimal :=
  match takeFront? chars with
  | some (decimal, []) => some decimal
  | _ => none

/-- How many digits stand before the point, at least, when the number is written without an
exponent. -/
def order (decimal : Decimal) : Int :=
  (Nat.toDigits 10 decimal.significand).length + decimal.scale

/-- The magnitude as a numerator and a denominator. -/
def fraction (decimal : Decimal) : Nat × Nat :=
  match decimal.scale with
  | .ofNat exponent => (decimal.significand * Nat.pow 10 exponent, 1)
  | .negSucc exponent => (decimal.significand, Nat.pow 10 (exponent + 1))

/-- A magnitude with more digits than this before the point is past every double. -/
def largestOrder : Int := 400

/-- A magnitude with more zeros than this after the point is nearer to zero than to any double. -/
def smallestOrder : Int := -400

/-- The nearest double. -/
def toDouble (decimal : Decimal) : Double :=
  if decimal.significand = 0 || decimal.order < smallestOrder then
    .finite decimal.negative 0 leastExponent
  else if largestOrder < decimal.order then .infinite decimal.negative
  else
    let (numerator, denominator) := decimal.fraction
    .nearest decimal.negative numerator denominator

end Decimal

/-- The words for an infinite number, in lower case. -/
def infinityWords : List String := ["inf", "infinity"]

/-- The double that a text names: a decimal number, or one of the words for those that are none, in
either letter case and perhaps with a sign. -/
def Double.ofText? (text : String) : Option Double :=
  let (negative, chars) := Decimal.takeSign text.toList
  let word := String.ofList (chars.map Char.toLower)
  if infinityWords.contains word then some (.infinite negative)
  else if word == "nan" then some .notANumber
  else (Decimal.ofChars? text.toList).map Decimal.toDouble

end TapeAdmin.Text
