import TapeAdmin.Text.Double
import TapeAdmin.Text.Tenths

/-!
# Durations

How long a step took, or a pause takes, in words: seconds with one decimal place, preceded by
minutes from one minute on and by hours and minutes from one hour on. The fields are cut off first
and the seconds are rounded last, each on its own.
-/

namespace TapeAdmin.Duration

open Text

/-- The number of hours is capped at the largest 32-bit number. -/
def hourLimit : Nat := UInt32.size - 1

/-- The text of `numerator / denominator` seconds. -/
def clockText (numerator denominator : Nat) : String :=
  let minute := 60 * denominator
  let hour := 3600 * denominator
  let seconds := oneDecimal (numerator % minute) denominator ++ "s"
  if numerator < minute then seconds
  else if numerator < hour then toString (numerator / minute) ++ "m " ++ seconds
  else
    toString (min (numerator / hour) hourLimit) ++ "h " ++
      toString (numerator % hour / minute) ++ "m " ++ seconds

/--
The text of a double number of seconds. A negative number counts as less than a minute however large
it is; the remainder of an infinite number is no number.
-/
def text : Double → String
  | .notANumber => "0h 0m NaNs"
  | .infinite true => "-infs"
  | .infinite false => toString hourLimit ++ "h 0m NaNs"
  | .finite true significand exponent =>
    let (numerator, denominator) := dyadicFraction significand exponent
    "-" ++ oneDecimal numerator denominator ++ "s"
  | .finite false significand exponent =>
    let (numerator, denominator) := dyadicFraction significand exponent
    clockText numerator denominator

/-- The text of a floating-point number of seconds. -/
def ofFloat (seconds : Float) : String :=
  text (Double.ofBits seconds.toBits)

/-- The text of a whole number of nanoseconds, read as a floating-point number of seconds. -/
def ofNanoseconds (nanoseconds : Nat) : String :=
  ofFloat (Float.ofNat (nanoseconds / 1000000000) +
    Float.ofNat (nanoseconds % 1000000000) / 1000000000)

/-- The text of a whole number of seconds, read as a floating-point number. -/
def ofSeconds (seconds : Nat) : String :=
  ofFloat (Float.ofNat seconds)

end TapeAdmin.Duration
