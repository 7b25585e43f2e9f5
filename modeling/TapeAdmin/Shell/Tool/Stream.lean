import TapeAdmin.Shell.Tool.Basic

/-!
# Tools that pass text on

The tools that read texts from files or from the standard input and write what they make of them.
-/

namespace TapeAdmin.Shell

namespace Tool

open Act

/-- The files that a tool reads, which is the standard input if there are none. -/
def sources (arguments : Arguments) : List Octets :=
  if arguments.operands.isEmpty then ["-"] else arguments.operands

/-- How `cat` shows what it passes on. -/
structure CatView where
  numbers : Bool
  numbersFilled : Bool
  ends : Bool
  tabs : Bool
  controls : Bool
  joinsBlank : Bool

/-- The view that options ask for. -/
def CatView.ofArguments (arguments : Arguments) : CatView where
  numbers := arguments.has 'n'
  numbersFilled := arguments.has 'b'
  ends := ['A', 'E', 'e'].any arguments.has
  tabs := ['A', 'T', 't'].any arguments.has
  controls := ['A', 'v', 'e', 't'].any arguments.has
  joinsBlank := arguments.has 's'

/-- Whether everything is passed on as it is. -/
def CatView.isPlain (view : CatView) : Bool :=
  !(view.numbers || view.numbersFilled || view.ends || view.tabs || view.controls ||
    view.joinsBlank)

/-- A byte as it is shown where controls are. -/
def controlText (char : Char) : List Char :=
  let code := char.toNat
  let shown (code : Nat) : List Char :=
    if code < 32 then ['^', Char.ofNat (code + 64)]
    else if code = 127 then ['^', '?']
    else [Char.ofNat code]
  if code < 128 then shown code else 'M' :: '-' :: shown (code - 128)

/-- A character as a view shows it. -/
def CatView.char (view : CatView) (char : Char) : List Char :=
  if char == '\n' then if view.ends then ['$', '\n'] else ['\n']
  else if char == '\t' then if view.tabs then ['^', 'I'] else ['\t']
  else if view.controls then controlText char
  else [char]

/-- The lines of a text as a view shows them, with the number of the last one that is numbered. -/
def CatView.lines (view : CatView) (number : Nat) (wasBlank : Bool) :
    List (List Char) → List Char × Nat × Bool
  | [] => ([], number, wasBlank)
  | line :: lines =>
    let isBlank := line == ['\n']
    if view.joinsBlank && isBlank && wasBlank then view.lines number true lines
    else
      let isNumbered := if view.numbersFilled then !isBlank else view.numbers
      let lead := if isNumbered then (column 6 (number + 1) ++ "\t").toList else []
      let (rest, state) :=
        view.lines (if isNumbered then number + 1 else number) isBlank lines
      (lead ++ line.flatMap view.char ++ rest, state)

/-- The tool `cat`. -/
def cat (name : Octets) (arguments : Arguments) : Act Nat := do
  let view := CatView.ofArguments arguments
  let pass : Passage := {
    act := fun _ _ text =>
      if view.isPlain then output name text 0
      else output name (String.ofList (view.lines 0 false (linesOf text)).1) 0
    blame := fileName }
  let words := sources arguments
  if (← openFile? 1).isNone then
    complain name "standard output: Bad file descriptor"
    return 1
  else
    let status ← pass.run name true 0 words
    if words.contains "-" && (← openFile? 0).isNone then
      complain name "closing standard input: Bad file descriptor"
      return 1
    else return status

/-- The arguments of `head` and `tail`, whose first one can be a number such as `-5`. -/
def withCount : List Octets → List Octets
  | word :: words =>
    match word.toList with
    | '-' :: first :: digits =>
      if (first :: digits).all Char.isDigit then
        "-n" :: String.ofList (first :: digits) :: words
      else word :: words
    | _ => word :: words
  | [] => []

/-- How much of a text is taken. -/
structure Extent where
  isBytes : Bool
  count : Nat
  /-- The sign in front of the number. -/
  sign : Option Char

/-- The extent that options ask for. -/
def extent (arguments : Arguments) : Except Octets Extent :=
  let (isBytes, word) :=
    match arguments.value? 'c' with
    | some word => (true, word)
    | none => (false, (arguments.value? 'n').getD "10")
  let (sign, digits) :=
    match word.toList with
    | '+' :: digits => (some '+', digits)
    | '-' :: digits => (some '-', digits)
    | digits => (none, digits)
  match Text.ofDigits? 10 digits with
  | some count => .ok ⟨isBytes, count, sign⟩
  | none => .error ("invalid number of " ++ (if isBytes then "bytes" else "lines") ++ ": " ++
      Quoting.inMessage word)

/-- The pieces of a text that an extent counts. -/
def Extent.pieces (extent : Extent) (text : Octets) : List (List Char) :=
  if extent.isBytes then text.toList.map ([·]) else linesOf text

/-- The start of a text. -/
def Extent.front (extent : Extent) (text : Octets) : Octets :=
  let pieces := extent.pieces text
  unlines (if extent.sign == some '-' then pieces.take (pieces.length - extent.count)
    else pieces.take extent.count)

/-- The end of a text. -/
def Extent.back (extent : Extent) (text : Octets) : Octets :=
  let pieces := extent.pieces text
  unlines (if extent.sign == some '+' then pieces.drop (extent.count - 1)
    else pieces.drop (pieces.length - extent.count))

/-- How much of a file an extent needs from its start. -/
def Extent.portion (extent : Extent) : Portion :=
  if extent.isBytes && extent.sign != some '-' then .bytes extent.count else .all

/-- Reads lines from the standard input and no more than that, and puts them behind those read
before, the last one first. -/
def readLines (lines : List Octets) : (count : Nat) → Act (List Octets)
  | 0 => return lines.reverse
  | count + 1 => do
    match ← read 0 .line with
    | .ok line => if line.isEmpty then return lines.reverse else readLines (line :: lines) count
    | .error _ => return lines.reverse

/-- Writes a part of each file, under its name if there are several. -/
def writeParts (name : Octets) (arguments : Arguments) (portion : Portion)
    (part : Octets → Octets) : Act Nat :=
  let words := sources arguments
  let isTitled := (2 ≤ words.length || arguments.has 'v') && !arguments.has 'q'
  let passage : Passage := {
    portion
    act := fun isFirst source text =>
      let shown := if source == "-" then "standard input" else source
      let gap := if isFirst then "" else "\n"
      let title := if isTitled then gap ++ "==> " ++ shown ++ " <==\n" else ""
      output name (title ++ part text) 0
    blame := fun word => "cannot open " ++ quotedName word ++ " for reading" }
  passage.run name true 0 words

/-- The tool `head`. -/
def head (name : Octets) (words : List Octets) : Act Nat :=
  withArguments ['q', 'v'] ['n', 'c'] (fun name arguments =>
    match extent arguments with
    | .error message => do
      complain name message
      return 1
    | .ok extent => do
      let isDirect := sources arguments == ["-"] && !arguments.has 'v' && !extent.isBytes &&
        extent.sign != some '-'
      if isDirect then output name (String.join (← readLines [] extent.count)) 0
      else writeParts name arguments extent.portion extent.front) name (withCount words)

/-- The tool `tail`. -/
def tail (name : Octets) (words : List Octets) : Act Nat :=
  withArguments ['q', 'v'] ['n', 'c'] (fun name arguments =>
    match extent arguments with
    | .error message => do
      complain name message
      return 1
    | .ok extent => writeParts name arguments .all extent.back) name (withCount words)

/-- How often words start in a text. -/
def wordCount (text : List Char) : Nat :=
  let step := fun (isInside, count) char =>
    let isBlank := [' ', '\t', '\n', '\x0b', '\x0c', '\r'].contains char
    (!isBlank, if !isBlank && !isInside then count + 1 else count)
  (text.foldl step (false, 0)).2

/-- The numbers of lines, words, characters and bytes of a text. -/
def counts (text : Octets) : List (Char × Nat) :=
  let chars := text.toList
  [('l', chars.count '\n'), ('w', wordCount chars), ('m', (Octets.text text).length),
    ('c', chars.length)]

/-- Whether the standard input is a file. -/
def readsFile : Act Bool := do
  match ← openFile? 0 with
  | some (_, openFile) =>
    match openFile.target with
    | .file _ => return true
    | _ => return false
  | none => return false

/-- The tool `wc`. -/
def wc (name : Octets) (arguments : Arguments) : Act Nat := do
  let words := sources arguments
  let wanted :=
    if arguments.options.isEmpty then ['l', 'w', 'c'] else arguments.options.map Prod.fst
  let isRegular ← readsFile
  let texts ← words.mapM content
  let found := texts.filterMap fun text => text.toOption.map counts
  let total := fun letter =>
    found.foldl (fun count entry => count + (entry.lookup letter).getD 0) 0
  let letters := ['l', 'w', 'm', 'c'].filter wanted.contains
  let width :=
    if letters.length = 1 && words.length = 1 then 1
    else if words.contains "-" && !isRegular then 7
    else (toString (total 'c')).length
  let row (count : Char → Nat) (title : Octets) : Octets :=
    String.intercalate " " (letters.map fun letter => column width (count letter)) ++ title ++ "\n"
  let mut status := 0
  for (word, text) in words.zip texts do
    let title := if arguments.operands.isEmpty then "" else " " ++ word
    match text with
    | .ok text => status := max status (← output name (row (fun letter =>
        ((counts text).lookup letter).getD 0) title) 0)
    | .error error =>
      complain name (fileName word ++ ": " ++ reason error)
      status := 1
  if 2 ≤ words.length then status := max status (← output name (row total " total") 0)
  return status

/-- The tool `tee`. -/
def tee (name : Octets) (arguments : Arguments) : Act Nat := do
  let kind : RedirectKind := if arguments.has 'a' then .append else .output true
  let mut status := 0
  let mut targets : List Nat := []
  for word in arguments.operands do
    match ← Redirection.openPath kind word with
    | .ok openFile => targets := targets ++ [← addOpenFile openFile]
    | .error error =>
      complain name (fileName word ++ ": " ++ reason error)
      status := 1
  match ← read 0 .all with
  | .error error =>
    complain name ("read error: " ++ reason error)
    return 1
  | .ok text =>
    for target in targets do
      match (← get).openFiles[target]? with
      | some openFile => discard (writeInto target openFile text)
      | none => pure ()
    output name text status

/-- The characters of a class in the sets of `tr`. -/
def classOf? (name : Octets) : Option (List Char) :=
  let ascii := (List.range 128).map Char.ofNat
  match name with
  | "upper" => some (ascii.filter Char.isUpper)
  | "lower" => some (ascii.filter Char.isLower)
  | "digit" => some (ascii.filter Char.isDigit)
  | "alpha" => some (ascii.filter Char.isAlpha)
  | "alnum" => some (ascii.filter Char.isAlphanum)
  | "space" => some ['\t', '\n', '\x0b', '\x0c', '\r', ' ']
  | "blank" => some ['\t', ' ']
  | "punct" => some (ascii.filter fun char =>
      33 ≤ char.toNat && char.toNat ≤ 126 && !char.isAlphanum)
  | _ => none

/-- The characters that `tr` is given, with its escapes resolved. -/
def escaped : List Char → List Char
  | '\\' :: 'n' :: chars => '\n' :: escaped chars
  | '\\' :: 't' :: chars => '\t' :: escaped chars
  | '\\' :: 'r' :: chars => '\r' :: escaped chars
  | '\\' :: '0' :: '0' :: '0' :: chars => '\x00' :: escaped chars
  | '\\' :: '0' :: chars => '\x00' :: escaped chars
  | '\\' :: char :: chars => char :: escaped chars
  | char :: chars => char :: escaped chars
  | [] => []

/-- The characters from one to another. -/
def charRange (first last : Char) : List Char :=
  (List.range (last.toNat + 1 - first.toNat)).map fun index => Char.ofNat (first.toNat + index)

/-- The characters that ranges of `tr` stand for. -/
def ranged : List Char → List Char
  | first :: '-' :: last :: chars => charRange first last ++ ranged chars
  | char :: chars => char :: ranged chars
  | [] => []

/-- The characters of a set of `tr`. -/
def charSet (word : Octets) : List Char :=
  let named := (Text.afterWord? "[:".toList word.toList).bind fun rest =>
    classOf? (String.ofList (rest.takeWhile (· != ':')))
  named.getD (ranged (escaped word.toList))

/-- Leaves out characters of a set that repeat the one in front of them. -/
def squeezed (set : List Char) (before : Option Char) : List Char → List Char
  | [] => []
  | char :: chars =>
    if before == some char && set.contains char then squeezed set before chars
    else char :: squeezed set (some char) chars

/-- The tool `tr`. -/
def tr (name : Octets) (arguments : Arguments) : Act Nat := do
  let deletes := arguments.has 'd'
  let squeezes := arguments.has 's'
  match arguments.operands with
  | [] => refuse name "missing operand"
  | first :: others =>
    if others.isEmpty && !deletes && !squeezes then
      complain name ("missing operand after " ++ Quoting.inMessage first)
      discard (write 2 "Two strings must be given when translating.\n")
      referToHelp name
      return 1
    else
      let listed := charSet first
      let isComplement := arguments.has 'c' || arguments.has 'C'
      let isMember (char : Char) : Bool := listed.contains char != isComplement
      let second := (others.head?.map charSet).getD []
      let replaced (char : Char) : Char :=
        if !isMember char then char
        else
          let index := if isComplement then second.length else listed.idxOf char
          (second[index]?).getD (second.getLast?.getD char)
      match ← read 0 .all with
      | .error error =>
        complain name ("read error: " ++ reason error)
        return 1
      | .ok text =>
        let kept := if deletes then text.toList.filter fun char => !isMember char else text.toList
        let changed := if deletes then kept else kept.map replaced
        let result :=
          if squeezes then squeezed (if second.isEmpty then listed else second) none changed
          else changed
        output name (String.ofList result) 0

/-- The number at the start of a line. -/
def leadingNumber (line : List Char) : Int :=
  let (isNegative, chars) := takeSign (line.dropWhile fun char => char == ' ' || char == '\t')
  let value := (Text.ofDigits? 10 (chars.takeWhile Char.isDigit)).getD 0
  if isNegative then -(value : Int) else value

/-- The tool `sort`. -/
def sort (name : Octets) (arguments : Arguments) : Act Nat := do
  let texts ← (sources arguments).mapM content
  let fault := (((sources arguments).zip texts).findSome? fun (word, text) =>
    match text with
    | .error error => some (word, error)
    | .ok _ => none)
  match fault with
  | some (word, error) =>
    complain name ("cannot read: " ++ fileName word ++ ": " ++ reason error)
    return 2
  | none =>
    let lines := texts.flatMap fun text => (linesOf (text.toOption.getD "")).map closed
    let before (first second : List Char) : Bool :=
      if arguments.has 'n' && leadingNumber first != leadingNumber second then
        leadingNumber first < leadingNumber second
      else String.ofList first ≤ String.ofList second
    let sorted := lines.mergeSort fun first second =>
      if arguments.has 'r' then before second first else before first second
    output name (unlines (if arguments.has 'u' then sorted.eraseReps else sorted)) 0

/-- Lines that are the same, in runs with their number. -/
def runs : List (List Char) → List (List Char × Nat)
  | [] => []
  | line :: lines =>
    match runs lines with
    | (other, count) :: rest =>
      if other == line then (line, count + 1) :: rest else (line, 1) :: (other, count) :: rest
    | [] => [(line, 1)]

/-- The tool `uniq`. -/
def uniq (name : Octets) (arguments : Arguments) : Act Nat := do
  let pass : Passage := {
    act := fun _ _ text =>
      let found := (runs ((linesOf text).map closed)).filter fun (_, count) =>
        (!arguments.has 'd' || 2 ≤ count) && (!arguments.has 'u' || count = 1)
      output name (unlines (found.map fun (line, count) =>
        if arguments.has 'c' then (column 7 count ++ " ").toList ++ line else line)) 0
    blame := fileName }
  pass.run name true 0 ((sources arguments).take 1)

end Tool

end TapeAdmin.Shell
