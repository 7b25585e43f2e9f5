import TapeAdmin.File.Path
import TapeAdmin.Text.Blank
import TapeAdmin.Text.Search

/-!
# Listings of mounts

The operating system lists its mounts one a line, as `<source> on <mount point> type <type>
(<options>)`. Only lines that mention `ltfs` are of interest. A source ends at the first ` on `; as
mount points may hold anything, the mount point ends at the last ` type `.
-/

namespace TapeAdmin

/-- One mount, as the operating system lists it. -/
structure ListedMount where
  source : String
  mountPoint : FilePath
  fileSystem : String
  options : List String
  deriving Repr

namespace ListedMount

/-- The options in a text such as `(rw,relatime)`. -/
def parseOptions (chars : List Char) : List String :=
  let bare := (Text.trim (String.ofList chars)).toList.dropWhile (· == '(')
  ((Text.dropEndWhile (· == ')') bare).splitOn ',').map String.ofList

/-- Reads one line of a listing. -/
def parseLine? (line : List Char) : Option ListedMount := do
  let (source, rest) ← Text.splitFirst? " on ".toList line
  let (mountPoint, tail) ← Text.splitLast? " type ".toList rest
  let fileSystem := tail.takeWhile (· != ' ')
  let options :=
    match tail.dropWhile (· != ' ') with
    | [] => []
    | _ :: text => parseOptions text
  pure {
    source := Text.trim (String.ofList source)
    mountPoint := ⟨String.ofList mountPoint⟩
    fileSystem := String.ofList fileSystem
    options := options }

/-- The mounts in a listing whose line mentions `ltfs`. -/
def parse (listing : String) : List ListedMount :=
  ((Text.lines listing).filter fun line => Text.contains line "ltfs").filterMap
    fun line => parseLine? line.toList

/-- A mount as the operating system lists it. -/
def line (mount : ListedMount) : String :=
  mount.source ++ " on " ++ mount.mountPoint.text ++ " type " ++ mount.fileSystem ++ " (" ++
    String.intercalate "," mount.options ++ ")"

end ListedMount

end TapeAdmin
