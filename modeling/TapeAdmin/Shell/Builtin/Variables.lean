import TapeAdmin.Shell.Builtin.Options
import TapeAdmin.Shell.Expansion

/-!
# Commands about variables

The commands of the shell that mark, hide and remove variables, and those that change its arguments
and its options.
-/

namespace TapeAdmin.Shell

namespace Builtin

open Act

/-- Lists the variables that satisfy a test, after a word. -/
def listVariables (lead : Octets) (test : Variable → Bool) : Act Unit := do
  let bindings := (← shell).bindings.filter fun entry => test entry.2
  let sorted := bindings.mergeSort fun first second => first.1 ≤ second.1
  for (name, found) in sorted do
    let value :=
      match found.value with
      | some value => "=" ++ quote value
      | none => ""
    say (lead ++ name ++ value ++ "\n")

/-- The name and the value in an argument. -/
def nameAndValue (word : Octets) : Octets × Option Octets :=
  let name := String.ofList (word.toList.takeWhile (· != '='))
  match word.toList.drop name.length with
  | _ :: value => (name, some (String.ofList value))
  | [] => (name, none)

/-- `export` and `readonly`, which mark variables. -/
def mark (lead : Octets) (test : Variable → Bool) (change : Variable → Variable)
    (arguments : List Octets) : Act Nat := do
  let (options, words) ← takeOptions ['p'] [] arguments
  if !options.isEmpty || words.isEmpty then
    listVariables lead test
    return 0
  else
    for word in words do
      let (name, value) := nameAndValue word
      demandName name
      match value with
      | some value => assign name value
      | none => pure ()
      putVariable name (some (change ((← variableNamed? name).getD {})))
    return 0

/-- `export`. -/
def exportNames : List Octets → Act Nat :=
  mark "export " Variable.exported fun found => { found with exported := true }

/-- `readonly`. -/
def readOnlyNames : List Octets → Act Nat :=
  mark "readonly " Variable.readOnly fun found => { found with readOnly := true }

/-- `local`, which hides variables until the function returns. -/
def localNames (arguments : List Octets) : Act Nat := do
  if (← shell).calls == 0 then fail "not in a function"
  else
    for word in arguments do
      if word != "-" then
        let (name, value) := nameAndValue word
        demandName name
        hide name
        match value with
        | some value => assign name value
        | none => pure ()
    return 0

/-- `unset`. -/
def unsetNames (arguments : List Octets) : Act Nat := do
  let (options, words) ← takeOptions ['v', 'f'] [] arguments
  for word in words do
    if options.getLast? == some ('f', "") then
      changeShell fun shell =>
        { shell with functions := shell.functions.filter fun entry => entry.1 != word }
    else
      demandName word
      match ← variableNamed? word with
      | some found =>
        if found.readOnly then fail (word ++ ": is read only") else putVariable word none
      | none => pure ()
  return 0

/-- `shift`. -/
def shiftArguments (arguments : List Octets) : Act Nat := do
  let count ←
    match arguments with
    | [] => pure 1
    | word :: _ => number word
  if (← shell).arguments.length < count then fail "can't shift that many"
  else
    changeShell fun shell => { shell with arguments := shell.arguments.drop count }
    return 0

/-- The names of all options, in the order in which they are listed. -/
def optionNames : List String :=
  optionLetters.map Prod.fst |>.take 15 |>.append ["privileged", "nolog", "debug"]

/-- The option that an option turns off. -/
def rival? : String → Option String
  | "vi" => some "emacs"
  | "emacs" => some "vi"
  | _ => none

/-- Turns an option on or off. -/
def setOption (name : String) (isOn : Bool) : Act Unit :=
  changeShell fun shell =>
    let others := shell.options.filter fun option =>
      option != name && !(isOn && rival? name == some option)
    { shell with options := if isOn then name :: others else others }

/-- Turns the control of jobs off again, for which a shell would need a terminal. -/
def refuseMonitor : Act Unit := do
  if ← isOn "monitor" then
    complain "can't access tty; job control turned off"
    setOption "monitor" false

/-- Turns the options with given letters on or off. -/
def setLetters (isOn : Bool) : List Char → Act Unit
  | [] => return ()
  | letter :: letters => do
    match optionLetters.find? fun option => option.2 == letter with
    | some (name, _) =>
      setOption name isOn
      setLetters isOn letters
    | none => fail ("Illegal option -" ++ letter.toString)

/-- Lists the options. -/
def listOptions (isTable : Bool) : Act Unit := do
  let isOn := (← shell).options
  if isTable then say "Current option settings\n"
  for name in optionNames do
    let state := isOn.contains name
    if isTable then
      let gap := String.ofList (List.replicate (16 - name.length) ' ')
      say (name ++ gap ++ (if state then "on" else "off") ++ "\n")
    else say ("set " ++ (if state then "-o " else "+o ") ++ name ++ "\n")

/-- Turns an option on or off by its name, or lists all options where there is none. -/
def setNamed (isOn : Bool) (name : Option Octets) : Act Unit := do
  match name with
  | none => listOptions isOn
  | some name =>
    if optionNames.contains name then setOption name isOn
    else fail ("Illegal option -o " ++ name)

/-- Takes the options of a shell off the start of arguments, and turns them on or off. Returns the
letters that are no options of a running shell, what is left, and the mark that has ended them. -/
def takeShellOptions (isOther : Char → Bool) :
    List Octets → Act (List Char × List Octets × Option Octets)
  | [] => return ([], [], none)
  | word :: words => do
    match word.toList with
    | ['-'] | ['-', '-'] => return ([], words, some word)
    | sign :: letters =>
      if sign == '-' || sign == '+' then
        let isOn := sign == '-'
        let special := letters.filter isOther
        let others := letters.filter fun letter => !isOther letter
        setLetters isOn (others.filter (· != 'o'))
        if others.contains 'o' then
          setNamed isOn words.head?
          let (found, rest, ending) ← takeShellOptions isOther (words.drop 1)
          return (special ++ found, rest, ending)
        else
          let (found, rest, ending) ← takeShellOptions isOther words
          return (special ++ found, rest, ending)
      else return ([], word :: words, none)
    | [] => return ([], word :: words, none)
termination_by words => words.length
decreasing_by all_goals simp only [List.length_cons, List.length_drop]; omega

/-- `set`. -/
def setOptions (arguments : List Octets) : Act Nat := do
  if arguments.isEmpty then
    listVariables "" fun found => found.value.isSome
    return 0
  else
    let (_, words, ending) ← takeShellOptions (fun _ => false) arguments
    refuseMonitor
    if ending == some "-" then
      setOption "xtrace" false
      setOption "verbose" false
    if !words.isEmpty || ending == some "--" then
      changeShell fun shell => { shell with arguments := words }
    return 0

end Builtin

end TapeAdmin.Shell
