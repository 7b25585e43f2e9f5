import TapeAdmin.Command.Line

/-!
# Options

How a program takes its arguments apart into options and operands by the letters that it declares.
A letter behind a dash is an option; letters may share a dash. A letter that is declared with a
colon takes a value: the rest of its argument, or else the next argument, whatever that starts with.
Two dashes, or an argument that is no option, end the options.
-/

namespace TapeAdmin

namespace Options

/-- The letters that are declared, each with whether it takes a value. -/
def declared : List Char → List (Char × Bool)
  | [] => []
  | letter :: ':' :: rest => (letter, true) :: declared rest
  | letter :: rest => (letter, false) :: declared rest

/-- The options in the letters behind one dash, and the last letter if its value is still to come.
-/
def readLetters? (known : List (Char × Bool)) :
    List Char → Option (List (Char × Option String) × Option Char)
  | [] => some ([], none)
  | letter :: letters =>
    match known.lookup letter with
    | none => none
    | some false =>
      (readLetters? known letters).map fun (given, awaiting) => ((letter, none) :: given, awaiting)
    | some true =>
      if letters.isEmpty then some ([], some letter)
      else some ([(letter, some (String.ofList letters))], none)

/-- The options in arguments, and the operands behind them; nothing if an option is unknown or lacks
its value. `awaiting` is the letter whose value the next argument is, if there is one. -/
def readFrom? (known : List (Char × Bool)) (awaiting : Option Char) :
    List String → Option (List (Char × Option String) × List String)
  | [] => if awaiting.isNone then some ([], []) else none
  | argument :: arguments =>
    match awaiting with
    | some letter =>
      (readFrom? known none arguments).map fun (given, operands) =>
        ((letter, some argument) :: given, operands)
    | none =>
      match argument.toList with
      | ['-', '-'] => some ([], arguments)
      | '-' :: letter :: letters =>
        (readLetters? known (letter :: letters)).bind fun (given, awaiting) =>
          (readFrom? known awaiting arguments).map fun (later, operands) =>
            (given ++ later, operands)
      | _ => some ([], argument :: arguments)

/-- The options in arguments by a declaration such as `d:f`, and the operands behind them. -/
def read? (declaration : String) (arguments : List String) :
    Option (List (Char × Option String) × List String) :=
  readFrom? (declared declaration.toList) none arguments

variable {known : List (Char × Bool)} {letter : Char}

/-- Arguments that are read as options, whatever stands behind them. -/
def Yields (known : List (Char × Bool)) (arguments : List String)
    (given : List (Char × Option String)) : Prop :=
  ∀ rest, readFrom? known none (arguments ++ rest) =
    (readFrom? known none rest).map fun (later, operands) => (given ++ later, operands)

namespace Yields

theorem nil : Yields known [] [] := by
  intro rest
  rw [List.nil_append]
  cases readFrom? known none rest <;> rfl

theorem append {first second : List String} {given later : List (Char × Option String)}
    (first_yields : Yields known first given) (second_yields : Yields known second later) :
    Yields known (first ++ second) (given ++ later) := by
  intro rest
  rw [List.append_assoc, first_yields, second_yields]
  cases readFrom? known none rest with
  | none => rfl
  | some parsed => simp

theorem of_word (not_dash : letter ≠ '-') {values : List String}
    {given : List (Char × Option String)}
    (reads : ∀ rest, ((readLetters? known [letter]).bind fun (given, awaiting) =>
        (readFrom? known awaiting (values ++ rest)).map fun (later, operands) =>
          (given ++ later, operands)) =
      (readFrom? known none rest).map fun (later, operands) => (given ++ later, operands)) :
    Yields known (String.ofList ['-', letter] :: values) given := by
  intro rest
  rw [← reads, List.cons_append, readFrom?, String.toList_ofList]
  split
  · next dashes => exact absurd (List.cons.inj (List.cons.inj dashes).2).1 not_dash
  · next same =>
      cases same
      rfl
  · next other => exact absurd rfl (other letter [])

/-- A letter that takes no value is an option by itself. -/
theorem flag (plain : known.lookup letter = some false) (not_dash : letter ≠ '-') :
    Yields known [String.ofList ['-', letter]] [(letter, none)] := by
  apply of_word not_dash
  simp [readLetters?, plain]

/-- A letter that takes a value takes the next argument, whatever that is. -/
theorem valued (takes : known.lookup letter = some true) (not_dash : letter ≠ '-')
    (value : String) :
    Yields known [String.ofList ['-', letter], value] [(letter, some value)] := by
  apply of_word not_dash
  simp [readLetters?, takes, readFrom?, Function.comp_def]

end Yields

theorem read?_of_yields {declaration : String} {arguments : List String}
    {given : List (Char × Option String)}
    (yields : Yields (declared declaration.toList) arguments given) :
    read? declaration arguments = some (given, []) := by
  have whole := yields []
  rw [List.append_nil] at whole
  rw [read?, whole]
  simp [readFrom?]

example : read? "d:n:fb:" ["-fd", "-n", "-b512", "--", "-f"] =
    some ([('f', none), ('d', some "-n"), ('b', some "512")], ["-f"]) := by
  decide +kernel

end Options

end TapeAdmin
