import TapeAdmin.Text.Digits
import TapeAdmin.Text.Visible

/-!
# Quoted texts

A text between double quotes on one line, in which everything shows: what would end it, break its
line or stay hidden is escaped with a backslash.
-/

namespace TapeAdmin.Text

/-- A character between double quotes. -/
def quotedChar (char : Char) : List Char :=
  match char with
  | '\x00' => ['\\', '0']
  | '\t' => ['\\', 't']
  | '\n' => ['\\', 'n']
  | '\r' => ['\\', 'r']
  | '"' => ['\\', '"']
  | '\\' => ['\\', '\\']
  | char =>
    if isHidden char then
      ['\\', 'u', '\x7b'] ++ Nat.toDigits 16 char.toNat ++ ['\x7d']
    else [char]

/-- A text between double quotes. -/
def quoted (text : String) : String :=
  "\"" ++ String.ofList (text.toList.flatMap quotedChar) ++ "\""

end TapeAdmin.Text
