import TapeAdmin.Host
import TapeAdmin.Text.LetterCase

/-!
# Confirmation

A question that the operator answers with `y` or `yes`, in any letter case; any other answer, and no
answer at all, is a no.
-/

namespace TapeAdmin

/-- Cuts bytes after the first line feed; all of them are the line if there is none. -/
def firstLine : List UInt8 → List UInt8 × List UInt8
  | [] => ([], [])
  | byte :: bytes =>
    if byte = 10 then ([byte], bytes)
    else
      let (line, rest) := firstLine bytes
      (byte :: line, rest)

/-- Whether an answer is a yes. -/
def isYes (answer : String) : Bool :=
  let word := Text.lower (Text.trim answer)
  word == ['y'] || word == ['y', 'e', 's']

/-- Reads a line that was typed. The reading tells what the operator had seen by then. -/
def readLine {σ : Type} : Attempt σ String := do
  let world ← get
  let (line, rest) := firstLine world.typed
  let reading : Reading := { line := line, printed := world.printed }
  set { world with typed := rest, readings := world.readings ++ [reading] }
  match Text.ofUtf8? line with
  | some text => pure text
  | none => throw (.system .invalidUtf8)

/-- Asks a question, and then reads the answer. -/
def confirm {σ : Type} (question : String) : Attempt σ Bool := do
  (print (question ++ " [y/N]: ") : Procedure σ Unit)
  let answer ← readLine
  pure (isYes answer)

end TapeAdmin
