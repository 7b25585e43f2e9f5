import TapeAdmin.Text.Decimal

/-!
# The shortest text of a double

A double is written with the fewest digits that read back as the same double, and of those with the
digits nearest to it. The point stands where it belongs, without an exponent.
-/

namespace TapeAdmin.Text

/-- How many digits stand before the point of `numerator / denominator`; for a fraction below one,
how many zeros stand right after the point, negated. -/
def orderOf (numerator denominator : Nat) : Int :=
  if denominator ≤ numerator then (Nat.toDigits 10 (numerator / denominator)).length
  else
    let inverse := (denominator + numerator - 1) / numerator
    1 - (Nat.toDigits 10 (inverse - 1)).length

/-- A fraction over a power of ten, as a numerator and a denominator. -/
def overPowerOfTen (numerator denominator : Nat) : Int → Nat × Nat
  | .ofNat scale => (numerator, denominator * Nat.pow 10 scale)
  | .negSucc scale => (numerator * Nat.pow 10 (scale + 1), denominator)

/-- Of the decimal numbers with `count` digits right below and right above `numerator /
denominator`, the nearer one that passes a test. -/
def nearestPassing? (passes : Nat → Int → Bool) (numerator denominator count : Nat) :
    Option (Nat × Int) :=
  let scale := orderOf numerator denominator - count
  let (upper, lower) := overPowerOfTen numerator denominator scale
  let below := upper / lower
  let isNearer : Bool := 2 * (upper % lower) < lower
  let ordered := if isNearer then [below, below + 1] else [below + 1, below]
  (ordered.find? fun digits => passes digits scale).map fun digits =>
    if digits = Nat.pow 10 count then (1, scale + count) else (digits, scale)

/-- The most digits that a double needs. -/
def mostDigits : Nat := 17

/-- The shortest decimal number that reads back as the double `significand * 2 ^ exponent`. -/
def shortestDecimal (significand : Nat) (exponent : Int) : Decimal :=
  let (numerator, denominator) := dyadicFraction significand exponent
  let double := Double.nearest false numerator denominator
  let readsBack (digits : Nat) (scale : Int) : Bool :=
    (⟨false, digits, scale⟩ : Decimal).toDouble == double
  let found := (List.range mostDigits).findSome? fun count =>
    nearestPassing? readsBack numerator denominator (count + 1)
  let (digits, scale) := found.getD (0, 0)
  ⟨false, digits, scale⟩

/-- Digits with a point, which stands before the last `places` of them. -/
def withPoint (digits : List Char) (places : Nat) : String :=
  let padded := List.replicate (places + 1 - digits.length) '0' ++ digits
  let whole := padded.take (padded.length - places)
  let fraction := padded.drop (padded.length - places)
  String.ofList (whole ++ '.' :: if fraction.isEmpty then ['0'] else fraction)

/-- The magnitude of a decimal number with a point and at least one digit on either side of it. -/
def Decimal.positional (decimal : Decimal) : String :=
  let digits := Nat.toDigits 10 decimal.significand
  match decimal.scale with
  | .ofNat zeros => withPoint (digits ++ List.replicate zeros '0') 0
  | .negSucc places => withPoint digits (places + 1)

/-- The shortest text of a double. -/
def Double.shortest : Double → String
  | .notANumber => "NaN"
  | .infinite negative => if negative then "-inf" else "inf"
  | .finite negative significand exponent =>
    let magnitude :=
      if significand = 0 then "0.0" else (shortestDecimal significand exponent).positional
    if negative then "-" ++ magnitude else magnitude

end TapeAdmin.Text
