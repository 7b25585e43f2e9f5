import TapeAdmin.Device.Mode
import TapeAdmin.Text.Digits
import TapeAdmin.Text.Numeral
import TapeAdmin.Text.Search

/-!
# Device names

A tape drive shows up as a family of device nodes: `st` and the number of the drive for the node
that rewinds when it is closed, `nst` and the number for the one that does not, each with an
optional letter for a mode. Numbers may have leading zeros, and fit into 32 bits. The standard
streams have names that start alike.
-/

namespace TapeAdmin

/-- What the name of a tape device node says. -/
structure DeviceName where
  drive : Nat
  rewinding : Bool
  mode : DensityMode
  deriving DecidableEq, Repr

namespace DeviceName

/-- The largest drive number. -/
def driveLimit : Nat := UInt32.size - 1

/-- Names that start like that of a device node and never are one. -/
def reserved : List String := ["stdin", "stdout", "stderr"]

/-- Splits off what stands before the number, which says whether the node rewinds. -/
def splitStem? : List Char → Option (Bool × List Char)
  | 'n' :: 's' :: 't' :: tail => some (false, tail)
  | 's' :: 't' :: tail => some (true, tail)
  | _ => none

/-- The mode that is written behind the number, if nothing else is. -/
def modeOf? : List Char → Option DensityMode
  | [] => some .default
  | [letter] => DensityMode.ofLetter? letter
  | _ => none

/-- The number that digits of any script make, if they are ASCII digits and it is not too large. -/
def driveOf? (digits : List Char) : Option Nat :=
  if digits.isEmpty then none else (Text.boundedFrom 10 driveLimit 0 digits).toOption

/-- Reads a text as the name of a tape device node. -/
def parse? (name : String) : Option DeviceName :=
  if reserved.contains name then none
  else do
    let (rewinding, tail) ← splitStem? name.toList
    let mode ← modeOf? (tail.dropWhile Text.isNumeral)
    let drive ← driveOf? (tail.takeWhile Text.isNumeral)
    pure ⟨drive, rewinding, mode⟩

/-- The name without superfluous zeros. -/
def canonical (name : DeviceName) : String :=
  String.ofList ((if name.rewinding then [] else ['n']) ++ ['s', 't'] ++
    (toString name.drive).toList ++ name.mode.suffix)

/-- Whether a name ends in one of the letters that stand for a mode. -/
def endsInModeLetter (name : String) : Bool :=
  match name.toList.getLast? with
  | some letter => (DensityMode.ofLetter? letter).isSome
  | none => false

end DeviceName

end TapeAdmin
