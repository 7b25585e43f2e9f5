import TapeAdmin.File.System
import TapeAdmin.Shell.Number

/-!
# Conditions

The questions that the command `test` answers: about texts, about numbers and about files, joined by
signs for "and", "or" and "not".
-/

namespace TapeAdmin.Shell

/-- A question about two words. -/
inductive Comparison where
  | same
  | different
  | before
  | after
  | equal
  | unequal
  | atLeast
  | greater
  | atMost
  | less
  | newer
  | older
  | sameFile
  deriving DecidableEq, Repr

/-- A question about one word. -/
inductive Property where
  | empty
  | nonempty
  | terminal
  /-- A question about the file with that name, by its letter. -/
  | file (letter : Char)
  deriving DecidableEq, Repr

/-- What a word of a condition means. -/
inductive ConditionSign where
  | comparison (comparison : Comparison)
  | property (property : Property)
  | not
  | and
  | or
  | openParenthesis
  | closeParenthesis
  deriving DecidableEq, Repr

namespace Condition

/-- The questions about two words. -/
def comparisons : List (Octets × Comparison) := [
  ("=", .same), ("!=", .different), ("<", .before), (">", .after), ("-eq", .equal),
  ("-ne", .unequal), ("-ge", .atLeast), ("-gt", .greater), ("-le", .atMost), ("-lt", .less),
  ("-nt", .newer), ("-ot", .older), ("-ef", .sameFile)]

/-- The letters of the questions about files. -/
def fileLetters : List Char := [
  'r', 'w', 'x', 'e', 'f', 'd', 'c', 'b', 'p', 'u', 'g', 'k', 's', 'h', 'O', 'G', 'L', 'S']

/-- The meaning of a word of a condition, if it is no text. -/
def sign? (word : Octets) : Option ConditionSign :=
  match comparisons.lookup word with
  | some comparison => some (.comparison comparison)
  | none =>
    match word.toList with
    | ['!'] => some .not
    | ['('] => some .openParenthesis
    | [')'] => some .closeParenthesis
    | ['-', 'a'] => some .and
    | ['-', 'o'] => some .or
    | ['-', 'z'] => some (.property .empty)
    | ['-', 'n'] => some (.property .nonempty)
    | ['-', 't'] => some (.property .terminal)
    | ['-', letter] => if fileLetters.contains letter then some (.property (.file letter)) else none
    | _ => none

/-- Whether a word compares the words around it. -/
def isComparison (word : Octets) : Bool :=
  (comparisons.lookup word).isSome

/-- Whether the sign of a question about one word is a text itself, because of what follows it. -/
def isText : List Octets → Bool
  | [] => true
  | [_] => false
  | next :: _ => isComparison next

/-- The meaning of the word at the start of the words that are left. -/
def meaning : List Octets → Option ConditionSign
  | [] => none
  | word :: rest =>
    match sign? word with
    | some (.property property) => if isText rest then none else some (.property property)
    | some .openParenthesis => if rest.isEmpty then none else some .openParenthesis
    | sign => sign

/-- A step of reading a condition over the words that are left; a message ends it. -/
abbrev Tester := StateT (List Octets) (Except Octets)

/-- The number that a word is. -/
def number (word : Octets) : Except Octets Int :=
  match integer? 10 word with
  | some number => .ok number
  | none => .error ("Illegal number: " ++ word)

/-- What is at a path, without following a link at its end. -/
def linkEntry? (files : FileSystem) (path : FilePath) : Option FileEntry :=
  match FileSystem.checkPath path, files.parentPlace (files.start path) path.segments with
  | .ok _, .ok (parent, name) => files.entry? (parent ++ [name])
  | _, _ => none

/-- The place that a path leads to. -/
def place? (files : FileSystem) (path : FilePath) : Option (List String) :=
  (files.follow (files.start path) (FileSystem.closedSegments path)).toOption

/-- Whether a place is in one of the directories that hold programs. -/
def isProgramPlace (place : Option (List String)) : Bool :=
  match place with
  | some place => [["bin"], ["usr", "bin"]].contains place.dropLast
  | none => false

/-- The answer to a question about a file. -/
def fileAnswer (files : FileSystem) (letter : Char) (word : Octets) : Bool :=
  let path := Octets.path word
  if letter == 'h' || letter == 'L' then
    match linkEntry? files path with
    | some (.link _) => true
    | _ => false
  else
    match files.find path with
    | .error _ => false
    | .ok entry =>
      match letter, entry with
      | 'f', .file _ => true
      | 'd', .directory => true
      | 'x', .directory => true
      | 'x', .file _ => isProgramPlace (place? files path)
      | 'c', .device | 'c', .fullDevice => true
      | 's', .file content => !content.isEmpty
      | 's', .directory => true
      | 'e', _ | 'r', _ | 'w', _ | 'O', _ | 'G', _ => true
      | _, _ => false

/-- The answer to a question about two words. -/
def compare (files : FileSystem) (comparison : Comparison) (left right : Octets) :
    Except Octets Bool := do
  match comparison with
  | .same => return left == right
  | .different => return left != right
  | .before => return left < right
  | .after => return right < left
  | .equal => return (← number left) == (← number right)
  | .unequal => return (← number left) != (← number right)
  | .atLeast => return (← number right) ≤ (← number left)
  | .greater => return (← number right) < (← number left)
  | .atMost => return (← number left) ≤ (← number right)
  | .less => return (← number left) < (← number right)
  | .newer | .older => return false
  | .sameFile =>
    match place? files (Octets.path left), place? files (Octets.path right) with
    | some first, some second => return first == second && (files.entry? first).isSome
    | _, _ => return false

/-- Passes over a word. -/
def skip : Tester Unit :=
  modify fun words => words.drop 1

/-- The meaning of the next word but `ahead` others. -/
def look (ahead : Nat) : Tester (Option ConditionSign) := do
  return meaning ((← get).drop ahead)

mutual

/-- Answers questions of which one must be answered by yes. When it ends, the last word that it has
used is the first of those that are left; `fuel` bounds how deep conditions are nested. -/
def either (files : FileSystem) : Nat → Option ConditionSign → Tester Bool
  | 0, _ => return false
  | fuel + 1, first => do
    let answer ← both files fuel first
    if (← look 1) == some .or then
      modify fun words => words.drop 2
      return (← either files fuel (← look 0)) || answer
    else return answer

/-- Answers questions all of which must be answered by yes. -/
def both (files : FileSystem) : Nat → Option ConditionSign → Tester Bool
  | 0, _ => return false
  | fuel + 1, first => do
    let answer ← negated files fuel first
    if (← look 1) == some .and then
      modify fun words => words.drop 2
      return (← both files fuel (← look 0)) && answer
    else return answer

/-- Answers a question with the signs for "not" in front of it. -/
def negated (files : FileSystem) : Nat → Option ConditionSign → Tester Bool
  | 0, _ => return false
  | fuel + 1, first => do
    if first == some .not then
      let next ← look 1
      if ((← get).drop 1).isEmpty then return true
      else
        skip
        return !(← negated files fuel next)
    else single files fuel first

/-- Answers one question. -/
def single (files : FileSystem) : Nat → Option ConditionSign → Tester Bool
  | 0, _ => return false
  | fuel + 1, first => do
    match ← get with
    | [] => return false
    | word :: rest =>
      match first with
      | some .openParenthesis =>
        skip
        let next ← look 0
        if next == some .closeParenthesis then return false
        else
          let answer ← either files fuel next
          skip
          if (← look 0) == some .closeParenthesis then return answer
          else throw "closing paren expected"
      | some (.property property) =>
        skip
        match rest with
        | [] => throw (word ++ ": argument expected")
        | subject :: _ =>
          match property with
          | .empty => return subject.isEmpty
          | .nonempty => return !subject.isEmpty
          | .terminal =>
            discard (number subject)
            return false
          | .file letter => return fileAnswer files letter subject
      | _ =>
        match ← look 1 with
        | some (.comparison comparison) =>
          match rest with
          | _ :: right :: _ =>
            modify fun words => words.drop 2
            compare files comparison word right
          | _ => throw (String.join (rest.take 1) ++ ": argument expected")
        | _ => return !word.isEmpty

end

/-- A message about a word, which is left out if it is empty. -/
def about (word message : Octets) : Octets :=
  if word.isEmpty then message else word ++ ": " ++ message

/-- Answers the condition that words make, the first of which has a given meaning. -/
def answerFrom (files : FileSystem) (first : Option ConditionSign) (words : List Octets) :
    Except Octets Bool := do
  let (answer, left) ← (either files (4 * words.length + 8) first).run words
  match left with
  | last :: _ :: _ => throw (about last "unexpected operator")
  | _ => return answer

/-- Answers the condition that words make. -/
def answer (files : FileSystem) : List Octets → Except Octets Bool
  | [] => return false
  | [left, sign, right] =>
    if isComparison sign then answerFrom files none [left, sign, right]
    else if left == "(" && right == ")" then answerFrom files (meaning [sign]) [sign]
    else if left == "!" then return !(← answerFrom files (meaning [sign, right]) [sign, right])
    else answerFrom files (meaning [left, sign, right]) [left, sign, right]
  | [first, second, third, fourth] =>
    if first == "(" && fourth == ")" then answerFrom files (meaning [second, third]) [second, third]
    else if first == "!" then return !(← answer files [second, third, fourth])
    else
      answerFrom files (meaning [first, second, third, fourth]) [first, second, third, fourth]
  | words => answerFrom files (meaning words) words

end Condition

end TapeAdmin.Shell
