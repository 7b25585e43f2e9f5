import TapeAdmin.Shell.Real
import TapeAdmin.Shell.Tool.Basic

/-!
# The tool that waits
-/

namespace TapeAdmin.Shell

namespace Tool

open Act

/-- The factors of the units of time. -/
def unitFactor? : List Char → Option Nat
  | [] | ['s'] => some 1
  | ['m'] => some 60
  | ['h'] => some 3600
  | ['d'] => some 86400
  | _ => none

/-- The milliseconds that a text such as `5`, `0.25` or `2m` denotes. -/
def milliseconds? (text : Octets) : Option Nat := do
  let (value, rest) ← Real.read? .extended text.toList
  let factor ← unitFactor? rest
  match value with
  | .notANumber _ => none
  | .infinite negative => if negative then none else some never
  | .finite negative significand exponent =>
    if negative && significand != 0 then none
    else
      let (numerator, denominator) := Real.fraction significand exponent
      some (min never (numerator * 1000 * factor / denominator))

/-- Waits for as long as operands say, if all of them are times. -/
def sleepFor (name : Octets) (arguments : Arguments) : Act Nat := do
  let words := arguments.operands
  let unfit := words.filter fun word => (milliseconds? word).isNone
  if !unfit.isEmpty then
    for word in unfit do
      complain name ("invalid time interval " ++ Quoting.inMessage word)
    referToHelp name
    return 1
  else
    waitUntil ((words.filterMap milliseconds?).foldl (· + ·) (← get).clock)
    return 0

/-- The tool `sleep`. -/
def sleep (name : Octets) (words : List Octets) : Act Nat :=
  if words.isEmpty then refuse name "missing operand"
  else withArguments [] [] sleepFor name words

end Tool

end TapeAdmin.Shell
