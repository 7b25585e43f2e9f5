import TapeAdmin.Shell.Octets

/-!
# Options that are letters

The letters of a word such as `-ab` are options of their own. Some of them have a value, which is
the rest of the word or, if nothing is left of it, the next word.
-/

namespace TapeAdmin.Shell

/-- The options that letters stand for, and the letter at their end if its value is the next word;
`flags` are the letters without a value, and `valued` those with one. Fails with a letter that is
neither. -/
def optionsOf (flags valued : List Char) :
    List Char → Except Char (List (Char × Octets) × Option Char)
  | [] => .ok ([], none)
  | letter :: letters =>
    if flags.contains letter then do
      let (found, open?) ← optionsOf flags valued letters
      return ((letter, "") :: found, open?)
    else if valued.contains letter then
      if letters.isEmpty then .ok ([], some letter)
      else .ok ([(letter, String.ofList letters)], none)
    else .error letter

end TapeAdmin.Shell
