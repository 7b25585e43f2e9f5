import TapeAdmin.Shell.Real

/-!
# Conversions

How `printf` writes one value: its sign, its digits, and the text that fills it up to a width.
-/

namespace TapeAdmin.Shell

/-- How a value is written. -/
structure Conversion where
  left : Bool := false
  plus : Bool := false
  space : Bool := false
  alternate : Bool := false
  zeros : Bool := false
  width : Nat := 0
  precision : Option Nat := none
  /-- The letter that says what kind of value it is. -/
  letter : Char := 's'
  deriving DecidableEq, Repr

namespace Conversion

/-- Sets what a flag stands for. -/
def withFlag (conversion : Conversion) (flag : Char) : Conversion :=
  match flag with
  | '-' => { conversion with left := true }
  | '+' => { conversion with plus := true }
  | ' ' => { conversion with space := true }
  | '#' => { conversion with alternate := true }
  | '0' => { conversion with zeros := true }
  | _ => conversion

/-- Sets a width; a negative one puts the value to the left. -/
def withWidth (conversion : Conversion) (width : Int) : Conversion :=
  { conversion with width := width.natAbs, left := conversion.left || width < 0 }

/-- Sets a precision; a negative one is none. -/
def withPrecision (conversion : Conversion) (precision : Int) : Conversion :=
  { conversion with precision := if precision < 0 then none else some precision.toNat }

/-- Fills digits up to the width, behind what stands in front of them. -/
def fill (conversion : Conversion) (zeros : Bool) (lead digits : List Char) : List Char :=
  let missing := conversion.width - (lead.length + digits.length)
  if conversion.left then lead ++ digits ++ List.replicate missing ' '
  else if zeros then lead ++ List.replicate missing '0' ++ digits
  else List.replicate missing ' ' ++ lead ++ digits

/-- A text. -/
def text (conversion : Conversion) (value : List Char) : List Char :=
  let shown :=
    match conversion.precision with
    | some limit => value.take limit
    | none => value
  conversion.fill false [] shown

/-- The sign in front of a number. -/
def sign (conversion : Conversion) (negative : Bool) : List Char :=
  if negative then ['-']
  else if conversion.plus then ['+']
  else if conversion.space then [' ']
  else []

/-- A letter as large as the letter of the conversion. -/
def inCase (conversion : Conversion) (char : Char) : Char :=
  if conversion.letter.isUpper then char.toUpper else char

/-- The digits of a number with as many zeros in front as the precision asks for; zero has no digits
where the precision is zero. -/
def digits (conversion : Conversion) (base value : Nat) : List Char :=
  let shown := if value = 0 && conversion.precision == some 0 then [] else Nat.toDigits base value
  List.replicate (conversion.precision.getD 1 - shown.length) '0' ++ shown

/-- A number with a sign. -/
def signed (conversion : Conversion) (value : Int) : List Char :=
  conversion.fill (conversion.zeros && conversion.precision.isNone) (conversion.sign (value < 0))
    (conversion.digits 10 value.natAbs)

/-- A number without a sign, in the base that the letter says. -/
def unsigned (conversion : Conversion) (value : Nat) : List Char :=
  let zeros := conversion.zeros && conversion.precision.isNone
  match conversion.letter with
  | 'o' =>
    let digits := conversion.digits 8 value
    let marked := conversion.alternate && digits.head? != some '0'
    conversion.fill zeros [] (if marked then '0' :: digits else digits)
  | 'u' => conversion.fill zeros [] (conversion.digits 10 value)
  | _ =>
    let mark := if conversion.alternate && value != 0 then ['0', 'x'] else []
    conversion.fill zeros (mark.map conversion.inCase)
      ((conversion.digits 16 value).map conversion.inCase)

/-- A number with a fraction, in the form that the letter says. -/
def real (conversion : Conversion) (format : RealFormat) (value : Real) : List Char :=
  let sign := conversion.sign value.isNegative
  let word (text : String) : List Char :=
    conversion.fill false sign (text.toList.map conversion.inCase)
  match value with
  | .notANumber _ => word "nan"
  | .infinite _ => word "inf"
  | .finite _ significand exponent =>
    let (numerator, denominator) := Real.fraction significand exponent
    let places := conversion.precision.getD 6
    let point := conversion.alternate
    let digits :=
      match conversion.letter.toLower with
      | 'f' => Real.fixed places point numerator denominator
      | 'e' => Real.scientific places point numerator denominator
      | 'g' => Real.general places point numerator denominator
      | _ => Real.hexadecimal format conversion.precision point significand exponent
    let digits := digits.map conversion.inCase
    if conversion.letter.toLower == 'a' then
      conversion.fill conversion.zeros (sign ++ digits.take 2) (digits.drop 2)
    else conversion.fill conversion.zeros sign digits

end Conversion

end TapeAdmin.Shell
