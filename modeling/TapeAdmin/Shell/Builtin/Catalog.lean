import TapeAdmin.Shell.Builtin.Directory
import TapeAdmin.Shell.Builtin.Getopts
import TapeAdmin.Shell.Builtin.Input
import TapeAdmin.Shell.Builtin.Lookup
import TapeAdmin.Shell.Builtin.Permission
import TapeAdmin.Shell.Builtin.Process
import TapeAdmin.Shell.Builtin.Text
import TapeAdmin.Shell.Builtin.Variables

/-!
# The commands of the shell

The commands of the shell that run no other commands, by their names.
-/

namespace TapeAdmin.Shell

namespace Builtin

/-- The commands of the shell that run no other commands and change nothing about which one is next.
-/
def catalog : List (Octets × (List Octets → Act Nat)) := [
  (":", fun _ => return 0),
  ("[", test true),
  ("alias", aliasNames),
  ("bg", resume),
  ("cd", cd),
  ("chdir", cd),
  ("echo", echo),
  ("export", exportNames),
  ("false", fun _ => return 1),
  ("fg", resume),
  ("getopts", getopts),
  ("hash", hash),
  ("jobs", jobs),
  ("kill", kill),
  ("local", localNames),
  ("printf", printf),
  ("pwd", pwd),
  ("read", readWords),
  ("readonly", readOnlyNames),
  ("set", setOptions),
  ("shift", shiftArguments),
  ("test", test false),
  ("times", times),
  ("trap", trap),
  ("true", fun _ => return 0),
  ("type", type),
  ("ulimit", ulimit),
  ("umask", umask),
  ("unalias", unalias),
  ("unset", unsetNames),
  ("wait", wait)]

end Builtin

end TapeAdmin.Shell
