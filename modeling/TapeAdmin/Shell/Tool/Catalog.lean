import TapeAdmin.Shell.Tool.Clock
import TapeAdmin.Shell.Tool.Place
import TapeAdmin.Shell.Tool.Stream
import TapeAdmin.Shell.Tool.Words

/-!
# Tools

The programs that are found on every host and need nothing but their arguments, their descriptors,
the files and the clock.
-/

namespace TapeAdmin.Shell

namespace Tool

/-- The directories in which the tools are. -/
def directories : List String := ["/usr/bin/", "/bin/"]

/-- The tools by their names. -/
def all : List (Octets × (Octets → List Octets → Act Nat)) := [
  ("basename", withArguments [] [] basename),
  ("cat", withArguments ['A', 'b', 'e', 'E', 'n', 's', 't', 'T', 'u', 'v'] [] cat),
  ("cp", withArguments ['f', 'p'] [] (transfer false)),
  ("dirname", withArguments [] [] dirname),
  ("echo", echo),
  ("false", fun _ _ => return 1),
  ("head", head),
  ("ls", withArguments ['1', 'a', 'A', 'd'] [] ls),
  ("mkdir", withArguments ['p'] ['m'] mkdir),
  ("mv", withArguments ['f'] [] (transfer true)),
  ("printf", printf),
  ("rm", withArguments ['f', 'r', 'R'] [] rm),
  ("rmdir", withArguments [] [] rmdir),
  ("seq", seq),
  ("sleep", sleep),
  ("sort", withArguments ['n', 'r', 'u'] [] sort),
  ("tail", tail),
  ("tee", withArguments ['a', 'i'] [] tee),
  ("touch", withArguments ['c'] [] touch),
  ("tr", withArguments ['c', 'C', 'd', 's'] [] tr),
  ("true", fun _ _ => return 0),
  ("uniq", withArguments ['c', 'd', 'u'] [] uniq),
  ("wc", withArguments ['c', 'l', 'm', 'w'] [] wc),
  ("yes", withArguments [] [] yes)]

/-- The name of the tool that a word names by its path. -/
def atPath? (word : Octets) : Option Octets :=
  directories.findSome? fun directory =>
    (Text.afterWord? directory.toList word.toList).map String.ofList

end Tool

end TapeAdmin.Shell
