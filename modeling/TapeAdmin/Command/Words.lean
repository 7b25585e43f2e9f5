/-!
# Shell words

How a shell takes a line apart into words: blanks separate words, single quotes keep what they
enclose, and a backslash outside quotes keeps the next character. Lines that ask for more than that,
by an unquoted character with a meaning to the shell, are refused.
-/

namespace TapeAdmin.ShellWords

/-- The characters by which a line asks for more than plain words, when they are not quoted. -/
def metaChars : List Char :=
  ['|', '&', ';', '<', '>', '(', ')', '$', '`', '"', '\n', '*', '?', '[', ']', '#', '~', '!', '{',
    '}']

/--
The words of a line. `current` is the reversed word being read, if one has begun; `quoted` says
whether the next character is inside single quotes.
-/
def read (current : Option (List Char)) (quoted : Bool) : List Char → Option (List (List Char))
  | [] => if quoted then none else some (current.toList.map List.reverse)
  | char :: chars =>
    if quoted then
      if char = '\'' then read (some (current.getD [])) false chars
      else read (some (char :: current.getD [])) true chars
    else if char = '\'' then read (some (current.getD [])) true chars
    else if char = '\\' then
      match chars with
      | [] => none
      | kept :: rest => read (some (kept :: current.getD [])) false rest
    else if char = ' ' || char = '\t' then
      (read none false chars).map (current.toList.map List.reverse ++ ·)
    else if metaChars.contains char then none
    else read (some (char :: current.getD [])) false chars

/-- The words of a line, if it is made of plain and quoted words only. -/
def split? (line : String) : Option (List String) :=
  (read none false line.toList).map (List.map String.ofList)

end TapeAdmin.ShellWords
