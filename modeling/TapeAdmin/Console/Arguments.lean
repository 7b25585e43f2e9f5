import TapeAdmin.Cartridge.Identifier
import TapeAdmin.Console.Grammar
import TapeAdmin.Console.Request
import TapeAdmin.Console.Usage

/-!
# Reading the command line

The words of a command line are read one after the other. Each verb collects its own arguments; once
a verb is followed by another one, the rest belongs to that. An option whose value is not attached
waits for the next word, and a value is looked at only when something comes after it, so that the
first fault in reading order is the one reported.
-/

namespace TapeAdmin

/-- The values of the arguments of one verb. -/
structure ArgumentValues where
  verbose : Bool := false
  logJson : Bool := false
  configuration : Option FilePath := none
  target : Target := {}
  detailed : Bool := false
  json : Bool := false
  mountOptions : List String := []
  label : Option String := none
  force : Bool := false
  blockSize : Option Nat := none
  assumeYes : Bool := false
  allowWrite : Bool := false
  output : Option FilePath := none
  attributeId : Option UInt16 := none
  partition : UInt8 := 0
  attributeValue : Option String := none
  mountPoint : Option FilePath := none
  suite : Option SuiteKind := none
  count : Option Nat := none

/-- Reads a path, which cannot be empty. -/
def readPath (text : String) : Except UsageFault FilePath :=
  if text.isEmpty then .error .invalidValue else .ok ⟨text⟩

/-- Reads a number of at most `limit`, with an optional sign; a minus sign fits only zero. -/
def readCount (limit : Nat) (text : String) : Except UsageFault Nat :=
  let digits :=
    match text.toList with
    | '+' :: digits | '-' :: digits => digits
    | digits => digits
  match Text.ofDigits? 10 digits with
  | none => .error .unreadableValue
  | some number =>
    if limit < number || (text.toList.head? == some '-' && number != 0) then .error .unreadableValue
    else .ok number

/-- The words for the modes that can be asked for. -/
def modeWords : List String := ["default", "a", "l", "m"]

/-- Reads a mode. -/
def readMode (text : String) : Except UsageFault String :=
  if modeWords.contains text then .ok text else .error .invalidValue

/-- Reads a suite. -/
def readSuite (text : String) : Except UsageFault SuiteKind :=
  match SuiteKind.ofWord? text with
  | some suite => .ok suite
  | none => .error .invalidValue

/-- Reads the number of an attribute. -/
def readAttributeId (text : String) : Except UsageFault UInt16 :=
  match Attribute.readId text with
  | .ok id => .ok id
  | .error _ => .error .unreadableValue

namespace ArgumentValues

/-- The largest number in an argument of four bytes. -/
def wordLimit : Nat := UInt32.size - 1

/-- The values with the one of an argument. Flags have no value and ignore the text. -/
def store (values : ArgumentValues) (text : String) : Argument → Except UsageFault ArgumentValues
  | .help => .error .helpWanted
  | .version => .error .versionWanted
  | .verbose => .ok { values with verbose := true }
  | .logJson => .ok { values with logJson := true }
  | .configuration => do
    pure { values with configuration := some (← readPath text) }
  | .device => do
    pure { values with target := { values.target with device := some (← readPath text) } }
  | .drive => do
    pure { values with target := { values.target with drive := some (← readCount wordLimit text) } }
  | .nonRewinding => .ok { values with target := { values.target with nonRewinding := true } }
  | .mode => do
    pure { values with target := { values.target with mode := some (← readMode text) } }
  | .detailed => .ok { values with detailed := true }
  | .json => .ok { values with json := true }
  | .mountOption => .ok { values with mountOptions := values.mountOptions ++ [text] }
  | .label => .ok { values with label := some text }
  | .force => .ok { values with force := true }
  | .blockSize => do
    pure { values with blockSize := some (← readCount wordLimit text) }
  | .assumeYes => .ok { values with assumeYes := true }
  | .allowWrite => .ok { values with allowWrite := true }
  | .output => do
    pure { values with output := some (← readPath text) }
  | .attributeId => do
    pure { values with attributeId := some (← readAttributeId text) }
  | .partition => do
    pure { values with partition := UInt8.ofNat (← readCount 255 text) }
  | .attributeValue => .ok { values with attributeValue := some text }
  | .mountPoint => do
    pure { values with mountPoint := some (← readPath text) }
  | .suite => do
    pure { values with suite := some (← readSuite text) }
  | .count => do
    pure { values with count := some (← readCount wordLimit text) }

/-- A value that must be given. -/
def require {α : Type} : Option α → Except UsageFault α
  | some value => .ok value
  | none => .error .missingArgument

/-- The values of a verb, overridden by those that a later verb has of the arguments that every verb
takes. -/
def general (values later : ArgumentValues) : ArgumentValues :=
  { verbose := values.verbose || later.verbose
    logJson := values.logJson || later.logJson
    configuration := later.configuration <|> values.configuration }

end ArgumentValues

/-- What a verb means together with everything after it. -/
inductive Meaning where
  | operation (operation : TapeOperation)
  | action (action : AttributeRequest)
  | request (request : Request)

/-- The meaning of a verb with its values, and with the meaning of what follows it. -/
def Verb.meaning (values : ArgumentValues) (inner : Option Meaning) :
    Verb → Except UsageFault Meaning
  | .program =>
    match inner with
    | some (.request request) => .ok (.request request)
    | _ => .error .missingVerb
  | .list => .ok (.request (.list values.detailed values.json))
  | .select => .ok (.request (.select values.target))
  | .info => .ok (.request (.info values.target))
  | .tape =>
    match inner with
    | some (.operation operation) => .ok (.request (.operate values.target operation))
    | _ => .error .missingVerb
  | .eject => .ok (.request (.eject values.target))
  | .mount => .ok (.request (.mount values.target values.mountPoint values.mountOptions))
  | .unmount => do
    pure (.request (.unmount (← ArgumentValues.require values.mountPoint)))
  | .mounts => .ok (.request .mounts)
  | .format =>
    .ok (.request
      (.format values.target values.label values.force values.blockSize values.assumeYes))
  | .diagnose => do
    let suite ← ArgumentValues.require values.suite
    pure (.request (.diagnose values.target suite values.allowWrite values.output))
  | .attributes =>
    match inner with
    | some (.action action) => .ok (.request (.attributes values.target action))
    | _ => .error .missingVerb
  | .status => .ok (.request .status)
  | .tapeStatus => .ok (.operation .status)
  | .tapeRewind => .ok (.operation .rewind)
  | .tapeOffline => .ok (.operation .offline)
  | .tapeLoad => .ok (.operation .load)
  | .tapeTell => .ok (.operation .tell)
  | .tapeForward => do
    pure (.operation (.spaceForward (← ArgumentValues.require values.count)))
  | .tapeBackward => do
    pure (.operation (.spaceBackward (← ArgumentValues.require values.count)))
  | .tapeRetension => .ok (.operation .retension)
  | .tapeClean => .ok (.operation .clean)
  | .tapeReset => .ok (.operation .reset)
  | .tapeEject => .ok (.operation .eject)
  | .attributesSummary => .ok (.action .summary)
  | .attributesRead => .ok (.action (.read values.attributeId values.partition))
  | .attributesWrite => do
    let id ← ArgumentValues.require values.attributeId
    let value ← ArgumentValues.require values.attributeValue
    pure (.action (.write id value values.partition))

/-- How a word looks. -/
inductive WordShape where
  /-- After this word everything is positional. -/
  | separator
  | long (name : String) (value : Option String)
  | short (letters : List Char)
  | plain

/-- The shape of a word. -/
def WordShape.of (word : String) : WordShape :=
  match word.toList with
  | ['-', '-'] => .separator
  | '-' :: '-' :: chars =>
    match Text.splitFirst? ['='] chars with
    | some (name, value) => .long (String.ofList name) (some (String.ofList value))
    | none => .long (String.ofList chars) none
  | '-' :: letter :: letters => .short (letter :: letters)
  | _ => .plain

/-- How far the arguments of one verb have been read. -/
structure ArgumentState where
  verb : Verb
  values : ArgumentValues := {}
  /-- The arguments whose values are in, in the order in which they came. -/
  given : List Argument := []
  /-- The argument whose value is not looked at yet, or has not even come. -/
  pending : Option (Argument × Option String) := none
  /-- Whether everything from here on is positional. -/
  separated : Bool := false
  /-- The positional values that are still free. -/
  free : List Argument

namespace ArgumentState

/-- The state after a verb. -/
def after (verb : Verb) : ArgumentState :=
  { verb := verb, free := verb.positions }

/-- Whether the next word is a value, provided that it looks like one. -/
def awaitsValue (state : ArgumentState) : Bool :=
  match state.pending with
  | some (_, none) => true
  | _ => false

/-- Takes an argument and its value in. -/
def accept (state : ArgumentState) (argument : Argument) (text : String) :
    Except UsageFault ArgumentState :=
  if state.given.contains argument && !argument.isRepeatable then .error .conflict
  else do
    let values ← state.values.store text argument
    pure { state with values := values, given := state.given ++ [argument] }

/-- Takes the pending argument in. -/
def settle (state : ArgumentState) : Except UsageFault ArgumentState :=
  match state.pending with
  | none => .ok state
  | some (_, none) => .error .invalidValue
  | some (argument, some text) => { state with pending := none }.accept argument text

/-- Takes an argument in at once, after the one that is pending. -/
def acceptNow (state : ArgumentState) (argument : Argument) (text : String) :
    Except UsageFault ArgumentState := do
  (← state.settle).accept argument text

/-- Makes an argument pending. -/
def await (state : ArgumentState) (argument : Argument) (value : Option String) :
    Except UsageFault ArgumentState := do
  pure { ← state.settle with pending := some (argument, value) }

/-- Reads a long option. -/
def readLong (state : ArgumentState) (name : String) (value : Option String) :
    Except UsageFault ArgumentState :=
  match state.verb.long? name with
  | none => .error .unknownArgument
  | some argument =>
    match argument.isFlag, value with
    | true, none => state.acceptNow argument ""
    | true, some _ => .error .unwantedValue
    | false, some text => state.acceptNow argument text
    | false, none => state.await argument none

/-- Reads the letters of a word: flags, and possibly one option at the end, whose value is the rest
of the word, with or without an equals sign. -/
def readShort (state : ArgumentState) : List Char → Except UsageFault ArgumentState
  | [] => .ok state
  | letter :: letters =>
    match state.verb.short? letter with
    | none => .error .unknownArgument
    | some argument =>
      if argument.isFlag then do (← state.acceptNow argument "").readShort letters
      else
        match letters with
        | [] => state.await argument none
        | '=' :: value => state.acceptNow argument (String.ofList value)
        | value => state.acceptNow argument (String.ofList value)

/-- The fault of a word for which there is no place. -/
def misplaced (state : ArgumentState) (word : String) : UsageFault :=
  let isVerb := state.verb.isIncomplete &&
    (word == "help" || (state.verb.successor? word).isSome)
  if state.separated && isVerb then .unknownArgument
  else if state.verb.isIncomplete then .unknownVerb
  else .unknownArgument

/-- Reads a positional value. -/
def readPositional (state : ArgumentState) (word : String) : Except UsageFault ArgumentState :=
  match state.free with
  | [] => .error (state.misplaced word)
  | argument :: free => { state with free := free }.await argument (some word)

/-- Reads a word that is no verb. -/
def readWord (state : ArgumentState) (word : String) : Except UsageFault ArgumentState :=
  if state.separated then state.readPositional word
  else
    match WordShape.of word with
    | .separator => .ok { state with separated := true }
    | .long name value => state.readLong name value
    | .short letters => state.readShort letters
    | .plain =>
      match state.pending with
      | some (argument, none) => .ok { state with pending := some (argument, some word) }
      | _ => state.readPositional word

/-- Ends the arguments of a verb. -/
def finish (state : ArgumentState) (inner : Option Meaning) :
    Except UsageFault (Meaning × ArgumentValues) := do
  let state ← state.settle
  if state.verb.isIncomplete && inner.isNone then
    if state.given.isEmpty then throw .nothingAsked else throw .missingVerb
  if state.given.contains .device && Argument.ofChoice.any state.given.contains then
    throw .conflict
  let meaning ← state.verb.meaning state.values inner
  pure (meaning, state.values)

end ArgumentState

/-- What becomes of a wish for help on the verbs that the words name. -/
def helpFault (verb : Verb) : List String → UsageFault
  | [] => .helpWanted
  | word :: words =>
    match verb.successor? word with
    | some successor => helpFault successor words
    | none =>
      if verb.isIncomplete && word == "help" && words.isEmpty then .helpWanted else .unknownVerb

/-- What a word does where a verb may stand. -/
inductive VerbReading where
  | verb (verb : Verb)
  | help
  | other

/-- Whether a word is read as a verb. -/
def ArgumentState.readVerb (state : ArgumentState) (word : String) : VerbReading :=
  if state.separated || state.awaitsValue then .other
  else
    match state.verb.successor? word with
    | some verb => .verb verb
    | none => if state.verb.isIncomplete && word == "help" then .help else .other

/-- Reads the words after a verb. The faults of a later verb come before those of an earlier one. -/
def readArguments (state : ArgumentState) :
    List String → Except UsageFault (Meaning × ArgumentValues)
  | [] => state.finish none
  | word :: words =>
    match state.readVerb word with
    | .verb verb => do
      let (inner, later) ← readArguments (.after verb) words
      let (meaning, values) ← state.finish (some inner)
      pure (meaning, values.general later)
    | .help => .error (helpFault state.verb words)
    | .other => do readArguments (← state.readWord word) words

/-- Reads a command line, of which the first word is the name of the program. -/
def Invocation.read (commandLine : List String) : Except UsageFault Invocation := do
  let (meaning, values) ← readArguments (.after .program) (commandLine.drop 1)
  match meaning with
  | .request request =>
    pure {
      request := request
      verbose := values.verbose
      logJson := values.logJson
      configuration := values.configuration }
  | _ => throw .missingVerb

end TapeAdmin
