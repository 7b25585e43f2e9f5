import TapeAdmin.Text.Digits

/-!
# Documents

Nested data as JSON text for machines: two spaces of indentation for each level, one item a line,
and nothing between the brackets of an empty list or object.
-/

namespace TapeAdmin

/-- Nested data. -/
inductive Document where
  | null
  | bool (value : Bool)
  | number (value : Nat)
  | text (value : String)
  | list (items : List Document)
  | object (fields : List (String × Document))

namespace Document

/-- A character inside a quoted text. -/
def escape (char : Char) : List Char :=
  if char = '"' then ['\\', '"']
  else if char = '\\' then ['\\', '\\']
  else if char = '\n' then ['\\', 'n']
  else if char = '\r' then ['\\', 'r']
  else if char = '\t' then ['\\', 't']
  else if char = '\x08' then ['\\', 'b']
  else if char = '\x0c' then ['\\', 'f']
  else if char.toNat < 32 then
    ['\\', 'u', '0', '0', Text.hexDigit (char.toNat / 16), Text.hexDigit (char.toNat % 16)]
  else [char]

/-- A text in quotes. -/
def quote (value : String) : String :=
  String.ofList ('"' :: value.toList.flatMap escape ++ ['"'])

/-- The start of a line at a level. -/
def indent (level : Nat) : String :=
  String.ofList (List.replicate (2 * level) ' ')

mutual

/-- A document as text; its own first line starts where it stands, the others at a level. -/
def render (level : Nat) : Document → String
  | .null => "null"
  | .bool value => if value then "true" else "false"
  | .number value => toString value
  | .text value => quote value
  | .list [] => "[]"
  | .list items => "[\n" ++ renderItems (level + 1) items ++ "\n" ++ indent level ++ "]"
  | .object [] => String.ofList ['\x7b', '\x7d']
  | .object fields =>
    String.ofList ['\x7b', '\n'] ++ renderFields (level + 1) fields ++ "\n" ++ indent level ++
      String.ofList ['\x7d']

/-- The items of a list, one a line. -/
def renderItems (level : Nat) : List Document → String
  | [] => ""
  | [item] => indent level ++ render level item
  | item :: items => indent level ++ render level item ++ ",\n" ++ renderItems level items

/-- The fields of an object, one a line. -/
def renderFields (level : Nat) : List (String × Document) → String
  | [] => ""
  | [(name, value)] => indent level ++ quote name ++ ": " ++ render level value
  | (name, value) :: fields =>
    indent level ++ quote name ++ ": " ++ render level value ++ ",\n" ++ renderFields level fields

end

end Document

end TapeAdmin
