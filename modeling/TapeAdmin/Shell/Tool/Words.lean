import TapeAdmin.Shell.Printf
import TapeAdmin.Shell.Tool.Basic

/-!
# Tools that write words

The tools that write what their arguments say.
-/

namespace TapeAdmin.Shell

namespace Tool

open Act

/-- The options at the start of the arguments of `echo`. -/
structure EchoOptions where
  newline : Bool := true
  escapes : Bool := false

/-- The options with the letters of one more word. -/
def EchoOptions.add (options : EchoOptions) : List Char → EchoOptions
  | [] => options
  | 'n' :: letters => { options with newline := false }.add letters
  | 'e' :: letters => { options with escapes := true }.add letters
  | _ :: letters => { options with escapes := false }.add letters

/-- Whether a word is an option of `echo`. -/
def isEchoOption (word : Octets) : Bool :=
  match word.toList with
  | '-' :: letter :: letters => (letter :: letters).all fun char => ['n', 'e', 'E'].contains char
  | _ => false

/-- The options of `echo`, and the words after them. -/
def echoOptions (options : EchoOptions) : List Octets → EchoOptions × List Octets
  | [] => (options, [])
  | word :: words =>
    if isEchoOption word then echoOptions (options.add (word.toList.drop 1)) words
    else (options, word :: words)

/-- The tool `echo`. -/
def echo (name : Octets) (arguments : List Octets) : Act Nat :=
  let (options, words) := echoOptions {} arguments
  let text := String.intercalate " " words
  if options.escapes then
    let (chars, ending) := unescape .toolEcho text.toList
    let isWhole := ending == .complete && options.newline
    output name (String.ofList chars ++ if isWhole then "\n" else "") 0
  else output name (text ++ if options.newline then "\n" else "") 0

/-- The tool `printf`. -/
def printf (name : Octets) (arguments : List Octets) : Act Nat := do
  let arguments := if arguments.head? == some "--" then arguments.drop 1 else arguments
  match arguments with
  | [] =>
    refuse name "missing operand"
  | format :: values =>
    let (printing, status, isComplete) := Printing.run .tool format values
    for complaint in printing.complaints.reverse do
      complain name complaint
    match printing.arguments with
    | excess :: _ =>
      if isComplete then
        complain name ("warning: ignoring excess arguments, starting with " ++
          Quoting.inMessage excess)
    | [] => pure ()
    output name printing.output status

/-- Writes a line over and over until a signal ends the process; `rounds` bounds how often. -/
def repeatLine (text : Octets) : (rounds : Nat) → Act Nat
  | 0 => throw .endless
  | rounds + 1 => do
    match ← write 1 text with
    | .ok () => repeatLine text rounds
    | .error _ => return 1

/-- The tool `yes`, which never ends by itself. -/
def yes (name : Octets) (arguments : Arguments) : Act Nat := do
  let words := if arguments.operands.isEmpty then ["y"] else arguments.operands
  let line := String.intercalate " " words ++ "\n"
  let block := String.join (List.replicate (UInt16.size / line.length + 1) line)
  let status ← repeatLine block 32
  complain name "standard output: No space left on device"
  return status

/-- A number as `seq` reads it: in units of the given number of decimal places. -/
structure Scaled where
  units : Int
  places : Nat

/-- The number that a word denotes. -/
def Scaled.ofWord? (word : Octets) : Option Scaled :=
  let (isNegative, chars) := takeSign word.toList
  let whole := chars.takeWhile Char.isDigit
  let fraction :=
    match chars.drop whole.length with
    | [] => some []
    | '.' :: fraction => some fraction
    | _ => none
  match fraction with
  | some fraction =>
    match Text.ofDigits? 10 (whole ++ fraction) with
    | some units => some ⟨if isNegative then -units else units, fraction.length⟩
    | none => none
  | none => none

/-- A number in units of more decimal places. -/
def Scaled.scaled (number : Scaled) (places : Nat) : Int :=
  number.units * Nat.pow 10 (places - number.places)

/-- The text of a number of units. -/
def Scaled.text (places : Nat) (units : Int) : Octets :=
  let digits := (toString units.natAbs).toList
  let padded := List.replicate (places + 1 - digits.length) '0' ++ digits
  let whole := padded.take (padded.length - places)
  (if units < 0 then "-" else "") ++ String.ofList whole ++
    if places = 0 then "" else "." ++ String.ofList (padded.drop whole.length)

/-- The numbers from a first to a last one. -/
def Scaled.range (first step last : Int) : List Int :=
  if step = 0 || (0 < step && last < first) || (step < 0 && first < last) then []
  else
    let count := ((last - first) / step).toNat + 1
    (List.range count).map fun (index : Nat) => first + step * (index : Int)

/-- A text with zeros behind its sign, to a given length. -/
def zeroPadded (length : Nat) (text : Octets) : Octets :=
  let zeros := List.replicate (length - text.length) '0'
  match text.toList with
  | '-' :: digits => String.ofList ('-' :: zeros ++ digits)
  | digits => String.ofList (zeros ++ digits)

/-- Writes the numbers of `seq`. -/
def sequence (name : Octets) (separator : Octets) (isPadded : Bool) (first step last : Scaled) :
    Act Nat :=
  let places := max first.places step.places
  let common := max places last.places
  let unit := Nat.pow 10 (common - places)
  let numbers := Scaled.range (first.scaled common) (step.scaled common) (last.scaled common)
  let texts := numbers.map fun number => Scaled.text places (number / unit)
  let width := if isPadded then texts.foldl (fun width text => max width text.length) 0 else 0
  if texts.isEmpty then return 0
  else output name (String.intercalate separator (texts.map (zeroPadded width)) ++ "\n") 0

/-- Whether a word is a negative number and no option. -/
def isNegativeNumber (word : Octets) : Bool :=
  match word.toList with
  | '-' :: char :: _ => char.isDigit || char == '.'
  | _ => false

/-- The tool `seq`. -/
def seq (name : Octets) (words : List Octets) : Act Nat :=
  let before := words.takeWhile fun word => !isNegativeNumber word
  let after := words.drop before.length
  match Arguments.read ['w'] ['s', 'f'] before with
  | .error message => refuse name message
  | .ok arguments =>
    let operands := arguments.operands ++ after
    let separator := (arguments.value? 's').getD "\n"
    let run (first step last : Octets) : Act Nat :=
      match [first, step, last].find? fun word => (Scaled.ofWord? word).isNone with
      | some word => refuse name ("invalid floating point argument: " ++ Quoting.inMessage word)
      | none =>
        match Scaled.ofWord? first, Scaled.ofWord? step, Scaled.ofWord? last with
        | some first', some step', some last' =>
          if step'.units = 0 then
            refuse name ("invalid Zero increment value: " ++ Quoting.inMessage step)
          else sequence name separator (arguments.has 'w') first' step' last'
        | _, _, _ => return 1
    match operands with
    | [] => refuse name "missing operand"
    | [last] => run "1" "1" last
    | [first, last] => run first "1" last
    | [first, step, last] => run first step last
    | _ :: _ :: _ :: excess :: _ => refuse name ("extra operand " ++ Quoting.inMessage excess)

/-- A path without separators at its end. -/
def withoutSeparators (path : List Char) : List Char :=
  (path.reverse.dropWhile (· == '/')).reverse

/-- The last name of a path. -/
def lastName (path : Octets) : List Char :=
  let chars := withoutSeparators path.toList
  if chars.isEmpty then path.toList.take 1
  else (chars.reverse.takeWhile (· != '/')).reverse

/-- What a path names the last name in. -/
def directoryName (path : Octets) : Octets :=
  let chars := withoutSeparators path.toList
  if chars.isEmpty then if path.isEmpty then "." else "/"
  else if !chars.contains '/' then "."
  else
    let parent := withoutSeparators (chars.reverse.dropWhile (· != '/')).reverse
    if parent.isEmpty then "/" else String.ofList parent

/-- A name without an ending that it has, unless nothing else is left. -/
def withoutEnding (ending : Octets) (name : List Char) : List Char :=
  match Text.afterWord? ending.toList.reverse name.reverse with
  | some rest => if rest.isEmpty then name else rest.reverse
  | none => name

/-- The tool `basename`. -/
def basename (name : Octets) (arguments : Arguments) : Act Nat := do
  match arguments.operands with
  | [] => refuse name "missing operand"
  | [path] => output name (String.ofList (lastName path) ++ "\n") 0
  | [path, ending] => output name (String.ofList (withoutEnding ending (lastName path)) ++ "\n") 0
  | _ :: _ :: excess :: _ => refuse name ("extra operand " ++ Quoting.inMessage excess)

/-- The tool `dirname`. -/
def dirname (name : Octets) (arguments : Arguments) : Act Nat := do
  if arguments.operands.isEmpty then refuse name "missing operand"
  else output name (String.join (arguments.operands.map fun path => directoryName path ++ "\n")) 0

end Tool

end TapeAdmin.Shell
