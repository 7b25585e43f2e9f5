import TapeAdmin.Shell.Conversion
import TapeAdmin.Shell.Escape
import TapeAdmin.Shell.Quoting

/-!
# Printing by a format

The tool `printf` and the command of the shell with the same name. The format is used again until
the arguments are used up. What the two do not share is listed in `PrintfRules`.
-/

namespace TapeAdmin.Shell

/-- Why an argument is not taken as the number it should be. -/
inductive ArgumentFault where
  | noNumber
  | moreThanNumber
  | pastRange
  deriving DecidableEq, Repr

/-- What the tool and the command of the shell do in ways of their own. -/
structure PrintfRules where
  formatEscapes : EscapeStyle
  argumentEscapes : EscapeStyle
  reals : RealFormat
  flags : List Char
  /-- The letters that may stand in front of the letter of a conversion and mean nothing. -/
  lengths : List Char
  /-- The letters of conversions that stand alone, without flags, width or precision. -/
  bare : List Char
  /-- The letters of the other conversions. -/
  letters : List Char
  /-- Whether a conversion takes certain flags and a precision. -/
  allows : (flags : List Char) → (hasPrecision : Bool) → (letter : Char) → Bool
  /-- The value of a character after a quote, and how much of the argument is too much. -/
  quoted : List Char → Nat × List Char
  /-- Whether more than a number is the worse fault of an argument than a number past the range. -/
  blamesEndFirst : Bool
  /-- Whether of a width or a precision among the arguments only the last 32 binary digits count. -/
  wrapsExtents : Bool
  /-- Whether a quote without a character after it is a number. -/
  quoteAlone : Bool
  fault : Octets → ArgumentFault → Octets
  invalid : Octets → Octets
  /-- The complaint about a format that ends in the middle of a conversion. -/
  unfinished : Octets → Octets
  /-- The status of a format that is no format. -/
  failure : Nat
  /-- The status after an escape has ended the output. -/
  stopped : Nat → Nat

/-- What has been printed so far. -/
structure Printing where
  arguments : List Octets
  output : Octets := ""
  /-- The complaints so far, the last one first. -/
  complaints : List Octets := []
  status : Nat := 0
  used : Bool := false

/-- A step of printing, which can end the whole with a status. -/
abbrev Printer := ExceptT Nat (StateM Printing)

namespace Printer

/-- Writes characters. -/
def write (chars : List Char) : Printer Unit :=
  modify fun state => { state with output := state.output ++ String.ofList chars }

/-- Complains. -/
def complain (message : Octets) : Printer Unit :=
  modify fun state => { state with complaints := message :: state.complaints }

/-- Ends the printing with a complaint. -/
def fail {α : Type} (rules : PrintfRules) (message : Octets) : Printer α := do
  complain message
  throw rules.failure

/-- The next argument, if there is one. -/
def argument? : Printer (Option Octets) := do
  let state ← get
  match state.arguments with
  | [] => return none
  | first :: rest =>
    set { state with arguments := rest, used := true }
    return some first

/-- Complains about an argument that is not the number it should be. -/
def blame (rules : PrintfRules) (argument : Octets) (fault : ArgumentFault) : Printer Unit := do
  complain (rules.fault argument fault)
  modify fun state => { state with status := 1 }

/-- The value of a quoted character that an argument is. -/
def quoted? (rules : PrintfRules) (argument : Octets) : Printer (Option Nat) := do
  match argument.toList with
  | mark :: chars =>
    if (mark == '"' || mark == '\'') && (rules.quoteAlone || !chars.isEmpty) then
      let (value, excess) := rules.quoted chars
      if !excess.isEmpty then
        complain ("warning: " ++ String.ofList excess ++
          ": character(s) following character constant have been ignored")
      return some value
    else return none
  | [] => return none

/-- Complains about an argument that has more than a number in it, or a number past the range. -/
def checkEnd (rules : PrintfRules) (argument : Octets) (isPast hasMore : Bool) : Printer Unit := do
  if isPast && !(rules.blamesEndFirst && hasMore) then blame rules argument .pastRange
  else if hasMore then blame rules argument .moreThanNumber

/-- Complains if an argument is not a number from its start to its end. -/
def check (rules : PrintfRules) (argument : Octets) (reading : NumberReading) : Printer Unit :=
  if !reading.found && !argument.isEmpty then blame rules argument .noNumber
  else checkEnd rules argument reading.isPast !reading.rest.isEmpty

/-- The value of the next argument as a number. -/
def number (rules : PrintfRules) (read : Nat → List Char → NumberReading) : Printer Int := do
  match ← argument? with
  | none => return 0
  | some argument =>
    match ← quoted? rules argument with
    | some value => return value
    | none =>
      let reading := read 0 argument.toList
      check rules argument reading
      return reading.value

/-- The value of the next argument as a number with a sign. -/
def signed (rules : PrintfRules) : Printer Int :=
  number rules readInteger

/-- The value of the next argument as a number without a sign. -/
def unsigned (rules : PrintfRules) : Printer Nat := do
  return (← number rules readUnsigned).toNat

/-- Whether a number is so near to zero that its format has fewer digits for it than for others. -/
def isTiny (format : RealFormat) (significand : Nat) (exponent : Int) : Bool :=
  significand = 0 ||
    (exponent = format.smallestExponent && significand < 1 <<< (format.digits - 1))

/-- Whether a number is written with a digit that is not zero in front of its exponent. -/
def showsDigit (text : List Char) : Bool :=
  (text.takeWhile fun char => !(['e', 'E', 'p', 'P'].contains char)).any fun char =>
    char.isDigit && char != '0'

/-- The value of the next argument as a number with a fraction. -/
def real (rules : PrintfRules) : Printer Real := do
  let zero : Real := .finite false 0 0
  match ← argument? with
  | none => return zero
  | some argument =>
    match ← quoted? rules argument with
    | some value => return .finite false value 0
    | none =>
      match Real.read? rules.reals argument.toList with
      | none =>
        if !argument.isEmpty then blame rules argument .noNumber
        return zero
      | some (value, rest) =>
        let isWord := (argument.toList.find? fun char => char.isAlphanum).any Char.isAlpha
        let isPast :=
          match value with
          | .infinite _ => !isWord
          | .finite _ significand exponent =>
            isTiny rules.reals significand exponent && showsDigit argument.toList
          | .notANumber _ => false
        checkEnd rules argument isPast !rest.isEmpty
        return value

/-- Writes characters with their escapes resolved, as far as they go. -/
def resolve (rules : PrintfRules) (conversion : Conversion) (chars : List Char) : Printer Unit := do
  let (resolved, ending) := unescape rules.argumentEscapes chars
  write (conversion.text resolved)
  match ending with
  | .complete => return ()
  | .stopped => throw (rules.stopped (← get).status)
  | .failed fault => fail rules fault.message

/-- The largest width or precision. -/
def largestWidth : Int := Int32.maxValue.toInt

/-- The value of the next argument as a width or a precision. -/
def extent (rules : PrintfRules) : Printer Int := do
  let value ← signed rules
  return if rules.wrapsExtents then Int.bmod value UInt32.size else value

/-- Reads the width at the start of a format, or takes it from the arguments. -/
def takeWidth (rules : PrintfRules) (conversion : Conversion) (chars : List Char) :
    Printer (Conversion × List Char) := do
  match chars with
  | '*' :: rest =>
    let argument := (← get).arguments.head?.getD ""
    let width ← extent rules
    if largestWidth < width || width < -largestWidth - 1 then
      fail rules ("invalid field width: " ++ Quoting.inMessage argument)
    else return (conversion.withWidth width, rest)
  | _ =>
    let digits := chars.takeWhile Char.isDigit
    return ({ conversion with width := (Text.ofDigits? 10 digits).getD 0 },
      chars.drop digits.length)

/-- Reads the precision at the start of a format, or takes it from the arguments. -/
def takePrecision (rules : PrintfRules) (conversion : Conversion) (chars : List Char) :
    Printer (Conversion × List Char × Bool) := do
  match chars with
  | '.' :: '*' :: rest =>
    let argument := (← get).arguments.head?.getD ""
    let precision ← extent rules
    if largestWidth < precision then
      fail rules ("invalid precision: " ++ Quoting.inMessage argument)
    else return (conversion.withPrecision precision, rest, true)
  | '.' :: rest =>
    let digits := rest.takeWhile Char.isDigit
    return ({ conversion with precision := some ((Text.ofDigits? 10 digits).getD 0) },
      rest.drop digits.length, true)
  | _ => return (conversion, chars, false)

/-- Writes the next argument under a conversion. -/
def convert (rules : PrintfRules) (conversion : Conversion) : Printer Unit := do
  match conversion.letter with
  | 's' => write (conversion.text ((← argument?).getD "").toList)
  | 'c' =>
    let char := (((← argument?).getD "").toList.head?).getD '\x00'
    write (conversion.fill false [] [char])
  | 'b' => resolve rules conversion ((← argument?).getD "").toList
  | 'q' =>
    match ← argument? with
    | some argument => write (Quoting.asWord argument).toList
    | none => return ()
  | 'd' | 'i' => write (conversion.signed (← signed rules))
  | 'o' | 'u' | 'x' | 'X' => write (conversion.unsigned (← unsigned rules))
  | _ => write (conversion.real rules.reals (← real rules))

/-- Reads a conversion after its percent sign and writes what it asks for; returns what follows it
in the format. -/
def takeConversion (rules : PrintfRules) (chars : List Char) : Printer (List Char) := do
  match chars with
  | '%' :: rest =>
    write ['%']
    return rest
  | _ =>
    let flags := chars.takeWhile rules.flags.contains
    let conversion := flags.foldl Conversion.withFlag {}
    let (conversion, rest) ← takeWidth rules conversion (chars.drop flags.length)
    let (conversion, rest, hasPrecision) ← takePrecision rules conversion rest
    let rest := rest.dropWhile rules.lengths.contains
    match rest with
    | [] => fail rules (rules.unfinished (String.ofList ('%' :: chars)))
    | letter :: after =>
      let isBare := after.length + 1 == chars.length
      let text := '%' :: chars.take (chars.length - after.length)
      if (isBare && rules.bare.contains letter) ||
          (rules.letters.contains letter && rules.allows flags hasPrecision letter) then
        convert rules { conversion with letter }
        return after
      else fail rules (rules.invalid (String.ofList text))

/-- Uses a format once; `fuel` bounds the number of its pieces. -/
def useOnce (rules : PrintfRules) : Nat → List Char → Printer Unit
  | 0, _ => return ()
  | _, [] => return ()
  | fuel + 1, '\\' :: chars => do
    match readEscape rules.formatEscapes chars with
    | .chars resolved rest =>
      write resolved
      useOnce rules fuel rest
    | .stop => throw (rules.stopped (← get).status)
    | .fault fault => fail rules fault.message
  | fuel + 1, '%' :: chars => do
    let rest ← takeConversion rules chars
    useOnce rules fuel rest
  | fuel + 1, char :: chars => do
    let plain := (char :: chars).takeWhile fun char => char != '%' && char != '\\'
    write plain
    useOnce rules fuel ((char :: chars).drop plain.length)

/-- Uses a format until the arguments are used up; `fuel` bounds the number of times. -/
def useAll (rules : PrintfRules) (format : List Char) : Nat → Printer Unit
  | 0 => return ()
  | fuel + 1 => do
    modify fun state => { state with used := false }
    useOnce rules (format.length + 1) format
    let state ← get
    if state.used && !state.arguments.isEmpty then useAll rules format fuel else return ()

end Printer

/-- Prints arguments by a format, and returns what was printed with the status, and whether the
format has been used to its end. -/
def Printing.run (rules : PrintfRules) (format : Octets) (arguments : List Octets) :
    Printing × Nat × Bool :=
  match (Printer.useAll rules format.toList (arguments.length + 1)).run { arguments } with
  | (.ok (), state) => (state, state.status, true)
  | (.error status, state) => (state, status, false)

/-- The value of a character of a text. -/
def characterValue (chars : List Char) : Nat × List Char :=
  match (Octets.bytes (String.ofList chars)) with
  | first :: rest =>
    match Text.utf8Head first rest with
    | .char char rest' => (char.toNat, (Octets.ofBytes rest').toList)
    | .malformed _ => (first.toNat, (Octets.ofBytes rest).toList)
  | [] => (0, [])

/-- The rules of the tool. -/
def PrintfRules.tool : PrintfRules where
  formatEscapes := .toolFormat
  argumentEscapes := .toolArgument
  reals := .extended
  flags := ['-', '+', ' ', '#', '0', '\'', 'I']
  lengths := ['l', 'L', 'h', 'j', 't', 'z']
  bare := ['b', 'q']
  letters := ['a', 'A', 'c', 'd', 'e', 'E', 'f', 'F', 'g', 'G', 'i', 'o', 's', 'u', 'x', 'X']
  allows flags hasPrecision letter :=
    let groups := flags.contains '\'' || flags.contains 'I'
    !(groups && ['a', 'A', 'c', 'e', 'E', 'o', 's', 'x', 'X'].contains letter) &&
      !(flags.contains '#' && ['c', 'd', 'i', 's', 'u'].contains letter) &&
      !(flags.contains '0' && ['c', 's'].contains letter) && !(hasPrecision && letter == 'c')
  quoted := characterValue
  blamesEndFirst := false
  wrapsExtents := false
  quoteAlone := false
  fault argument
    | .noNumber => Quoting.inMessage argument ++ ": expected a numeric value"
    | .moreThanNumber => Quoting.inMessage argument ++ ": value not completely converted"
    | .pastRange => Quoting.inMessage argument ++ ": Numerical result out of range"
  invalid text := text ++ ": invalid conversion specification"
  unfinished text := text ++ ": invalid conversion specification"
  failure := 1
  stopped _ := 0

/-- The rules of the command of the shell. -/
def PrintfRules.command : PrintfRules where
  formatEscapes := .shellFormat
  argumentEscapes := .shellArgument
  reals := .double
  flags := ['#', '-', '+', ' ', '0']
  lengths := []
  bare := []
  letters := ['a', 'A', 'b', 'c', 'd', 'e', 'E', 'f', 'F', 'g', 'G', 'i', 'o', 's', 'u', 'x', 'X']
  allows _ _ _ := true
  quoted chars := ((chars.head?.map Char.toNat).getD 0, [])
  quoteAlone := true
  blamesEndFirst := true
  wrapsExtents := true
  fault argument
    | .noNumber => argument ++ ": expected numeric value"
    | .moreThanNumber => argument ++ ": not completely converted"
    | .pastRange => argument ++ ": Numerical result out of range"
  invalid text := text ++ ": invalid directive"
  unfinished _ := "missing format character"
  failure := 2
  stopped status := status

end TapeAdmin.Shell
