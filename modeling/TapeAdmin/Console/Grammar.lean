import TapeAdmin.Diagnostics.Suite

/-!
# The words of the command line

Which words name something to do, which arguments each of them takes, and how an argument is
written. A command line is a chain of verbs, each with its own arguments: the program, what to do,
and for tape operations and cartridge attributes one word more.
-/

namespace TapeAdmin

/-- An argument of the command line: a flag, an option with a value, or a positional value. -/
inductive Argument where
  | help
  | version
  | verbose
  | logJson
  | configuration
  | device
  | drive
  | nonRewinding
  | mode
  | detailed
  | json
  | mountOption
  | label
  | force
  | blockSize
  | assumeYes
  | allowWrite
  | output
  | attributeId
  | partition
  | attributeValue
  | mountPoint
  | suite
  | count
  deriving DecidableEq, Repr

namespace Argument

/-- The long name of an argument; a positional value has none. -/
def long? : Argument → Option String
  | .help => some "help"
  | .version => some "version"
  | .verbose => some "verbose"
  | .logJson => some "log-json"
  | .configuration => some "config"
  | .device => some "device"
  | .drive => some "drive"
  | .nonRewinding => some "non-rewinding"
  | .mode => some "mode"
  | .detailed => some "detailed"
  | .json => some "json"
  | .mountOption => some "option"
  | .label => some "label"
  | .force => some "force"
  | .blockSize => some "block-size"
  | .assumeYes => some "yes"
  | .allowWrite => some "allow-write"
  | .output => some "output"
  | .attributeId => some "id"
  | .partition => some "partition"
  | .attributeValue => some "value"
  | .mountPoint | .suite | .count => none

/-- The letter of an argument. -/
def short? : Argument → Option Char
  | .help => some 'h'
  | .version => some 'V'
  | .verbose => some 'v'
  | .configuration => some 'c'
  | .device | .detailed => some 'd'
  | .mode => some 'm'
  | .mountOption | .output => some 'o'
  | .label => some 'n'
  | .force => some 'f'
  | .blockSize => some 'b'
  | .assumeYes => some 'y'
  | .partition => some 'p'
  | _ => none

/-- Whether an argument has no value. -/
def isFlag : Argument → Bool
  | .help | .version | .verbose | .logJson | .nonRewinding | .detailed | .json | .force
  | .assumeYes | .allowWrite => true
  | _ => false

/-- Whether an argument may be given more than once. -/
def isRepeatable : Argument → Bool
  | .mountOption => true
  | _ => false

/-- The arguments that say which device is meant. -/
def ofTarget : List Argument := [.device, .drive, .nonRewinding, .mode]

/-- The arguments that help choosing a device, and make no sense where one is given. -/
def ofChoice : List Argument := [.drive, .nonRewinding, .mode]

end Argument

/-- A word that names something to do, and the program itself. -/
inductive Verb where
  | program
  | list
  | select
  | info
  | tape
  | eject
  | mount
  | unmount
  | mounts
  | format
  | diagnose
  | attributes
  | status
  | tapeStatus
  | tapeRewind
  | tapeOffline
  | tapeLoad
  | tapeTell
  | tapeForward
  | tapeBackward
  | tapeRetension
  | tapeClean
  | tapeReset
  | tapeEject
  | attributesSummary
  | attributesRead
  | attributesWrite
  deriving DecidableEq, Repr

namespace Verb

/-- The word for a verb. -/
def word : Verb → String
  | .program => "ltfsadm"
  | .list => "list"
  | .select => "select"
  | .info => "info"
  | .tape => "mt"
  | .eject => "eject"
  | .mount => "mount"
  | .unmount => "unmount"
  | .mounts => "mounts"
  | .format => "format"
  | .diagnose => "diag"
  | .attributes => "mam"
  | .status => "status"
  | .tapeStatus => "status"
  | .tapeRewind => "rewind"
  | .tapeOffline => "offline"
  | .tapeLoad => "load"
  | .tapeTell => "tell"
  | .tapeForward => "fsf"
  | .tapeBackward => "bsf"
  | .tapeRetension => "tension"
  | .tapeClean => "clean"
  | .tapeReset => "reset"
  | .tapeEject => "eject"
  | .attributesSummary => "summary"
  | .attributesRead => "read"
  | .attributesWrite => "write"

/-- The verbs of which one must follow a verb; none need follow where there are none. -/
def successors : Verb → List Verb
  | .program => [.list, .select, .info, .tape, .eject, .mount, .unmount, .mounts, .format,
      .diagnose, .attributes, .status]
  | .tape => [.tapeStatus, .tapeRewind, .tapeOffline, .tapeLoad, .tapeTell, .tapeForward,
      .tapeBackward, .tapeRetension, .tapeClean, .tapeReset, .tapeEject]
  | .attributes => [.attributesSummary, .attributesRead, .attributesWrite]
  | _ => []

/-- Whether a verb needs another one after it. -/
def isIncomplete (verb : Verb) : Bool :=
  !verb.successors.isEmpty

/-- The successor that a word names. -/
def successor? (verb : Verb) (word : String) : Option Verb :=
  verb.successors.find? fun successor => successor.word == word

/-- The flags and options of a verb alone. -/
def ownOptions : Verb → List Argument
  | .program => [.version]
  | .list => [.detailed, .json]
  | .select | .info | .tape | .eject | .attributes => Argument.ofTarget
  | .mount => Argument.ofTarget ++ [.mountOption]
  | .format => Argument.ofTarget ++ [.label, .force, .blockSize, .assumeYes]
  | .diagnose => Argument.ofTarget ++ [.allowWrite, .output]
  | .attributesRead => [.attributeId, .partition]
  | .attributesWrite => [.attributeId, .attributeValue, .partition]
  | _ => []

/-- Everything that a verb takes as a flag or an option. -/
def options (verb : Verb) : List Argument :=
  [.help, .verbose, .logJson, .configuration] ++ verb.ownOptions

/-- The positional values of a verb, in order. -/
def positions : Verb → List Argument
  | .mount | .unmount => [.mountPoint]
  | .diagnose => [.suite]
  | .tapeForward | .tapeBackward => [.count]
  | _ => []

/-- The option of a verb with a long name. -/
def long? (verb : Verb) (name : String) : Option Argument :=
  verb.options.find? fun argument => argument.long? == some name

/-- The option of a verb with a letter. -/
def short? (verb : Verb) (letter : Char) : Option Argument :=
  verb.options.find? fun argument => argument.short? == some letter

end Verb

end TapeAdmin
