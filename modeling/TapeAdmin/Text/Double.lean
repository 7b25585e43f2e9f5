import TapeAdmin.Text.Tenths

/-!
# Doubles as exact numbers

A finite double is a whole number times a power of two. Taking it apart makes the arithmetic on it
exact, so that statements about it are statements about fractions.
-/

namespace TapeAdmin.Text

/-- A double, taken apart. -/
inductive Double where
  | notANumber
  | infinite (negative : Bool)
  /-- The number `significand * 2 ^ exponent`, negated if `negative` is set. -/
  | finite (negative : Bool) (significand : Nat) (exponent : Int)
  deriving DecidableEq, Repr

/-- Reads the sign, the exponent and the fraction of the binary form of a double. -/
def Double.ofBits (bits : UInt64) : Double :=
  let word := bits.toNat
  let negative : Bool := word >>> 63 == 1
  let biased : Nat := (word >>> 52) % 2048
  let fraction : Nat := word % (1 <<< 52)
  if biased = 2047 then
    if fraction = 0 then .infinite negative else .notANumber
  else if biased = 0 then .finite negative fraction (-1074)
  else .finite negative (fraction + (1 <<< 52)) ((biased : Int) - 1075)

/-- The magnitude `significand * 2 ^ exponent` as a numerator and a denominator. -/
def dyadicFraction (significand : Nat) : Int → Nat × Nat
  | .ofNat exponent => (significand <<< exponent, 1)
  | .negSucc exponent => (significand, 1 <<< (exponent + 1))

/-- An exponent at which `numerator / denominator` has 53 binary digits before the point, or 54. -/
def leadingExponent (numerator denominator : Nat) : Int :=
  (numerator.log2 : Int) - (denominator.log2 : Int) - 53

/-- The nearest multiple of `2 ^ exponent` to `numerator / denominator`, as its factor. -/
def significandAt (numerator denominator : Nat) : Int → Nat
  | .ofNat exponent => roundHalfEven numerator (denominator <<< exponent)
  | .negSucc exponent => roundHalfEven (numerator <<< (exponent + 1)) denominator

/-- The exponent of the doubles nearest to zero. -/
def leastExponent : Int := -1074

/-- The exponent of the largest doubles. -/
def greatestExponent : Int := 971

/-- The double `significand * 2 ^ exponent`, of which the significand has at most 53 binary digits
or is the power of two right after them. -/
def Double.normal (negative : Bool) (significand : Nat) (exponent : Int) : Double :=
  let (significand, exponent) :=
    if significand = 1 <<< 53 then (1 <<< 52, exponent + 1) else (significand, exponent)
  if greatestExponent < exponent then .infinite negative
  else .finite negative significand exponent

/-- The double nearest to a fraction, the even one if two are equally near. -/
def Double.nearest (negative : Bool) (numerator denominator : Nat) : Double :=
  let low := max (leadingExponent numerator denominator) leastExponent
  let exponent := if significandAt numerator denominator low ≤ 1 <<< 53 then low else low + 1
  .normal negative (significandAt numerator denominator exponent) exponent

end TapeAdmin.Text
