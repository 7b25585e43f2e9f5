import TapeAdmin.Shell.Number
import TapeAdmin.Shell.Syntax

/-!
# Arithmetic

The expressions of the shell, over numbers of 64 bits. An expression is evaluated while it is read,
so that what fails first is what stands first. A part of an expression that is not needed is read
without its effects.
-/

namespace TapeAdmin.Shell

/-- An operation on two numbers. -/
inductive Operation where
  | multiply
  | divide
  | remainder
  | add
  | subtract
  | shiftLeft
  | shiftRight
  | less
  | lessOrEqual
  | greater
  | greaterOrEqual
  | equal
  | unequal
  | bitAnd
  | bitXor
  | bitOr
  deriving DecidableEq, Repr

/-- How loosely an operation binds its numbers. -/
def Operation.rank : Operation → Nat
  | .multiply | .divide | .remainder => 0
  | .add | .subtract => 1
  | .shiftLeft | .shiftRight => 2
  | .less | .lessOrEqual | .greater | .greaterOrEqual => 3
  | .equal | .unequal => 4
  | .bitAnd => 5
  | .bitXor => 6
  | .bitOr => 7

/-- A sign, a number or a name of an expression. -/
inductive ArithmeticToken where
  | number (value : Int)
  | name (name : Octets)
  | operation (operation : Operation)
  /-- An assignment, perhaps of the result of an operation on the old value. -/
  | assign (operation : Option Operation)
  | not
  | complement
  | both
  | either
  | question
  | colon
  | openParenthesis
  | closeParenthesis
  | finish
  | unknown
  deriving DecidableEq, Repr

/-- Why an expression has no value. -/
inductive ArithmeticFault where
  | wantsPrimary
  | wantsParenthesis
  | wantsColon
  | wantsEnd
  | divisionByZero
  /-- The value of a variable is no number. -/
  | illegalNumber (text : Octets)
  deriving DecidableEq, Repr

/-- The wording of a fault in an expression. -/
def ArithmeticFault.message (expression : Octets) : ArithmeticFault → Octets
  | .illegalNumber text => "Illegal number: " ++ text
  | fault =>
    let reason :=
      match fault with
      | .wantsPrimary => "expecting primary"
      | .wantsParenthesis => "expecting ')'"
      | .wantsColon => "expecting ':'"
      | .wantsEnd => "expecting EOF"
      | _ => "division by zero"
    "arithmetic expression: " ++ reason ++ ": \"" ++ expression ++ "\""

namespace Arithmetic

/-- The signs of expressions; a sign that starts with another one stands before it. -/
def signs : List (List Char × ArithmeticToken) := [
  (['<', '<', '='], .assign (some .shiftLeft)), (['>', '>', '='], .assign (some .shiftRight)),
  (['<', '<'], .operation .shiftLeft), (['>', '>'], .operation .shiftRight),
  (['<', '='], .operation .lessOrEqual), (['>', '='], .operation .greaterOrEqual),
  (['<'], .operation .less), (['>'], .operation .greater),
  (['=', '='], .operation .equal), (['!', '='], .operation .unequal), (['='], .assign none),
  (['!'], .not), (['~'], .complement),
  (['&', '&'], .both), (['&', '='], .assign (some .bitAnd)), (['&'], .operation .bitAnd),
  (['|', '|'], .either), (['|', '='], .assign (some .bitOr)), (['|'], .operation .bitOr),
  (['^', '='], .assign (some .bitXor)), (['^'], .operation .bitXor),
  (['*', '='], .assign (some .multiply)), (['*'], .operation .multiply),
  (['/', '='], .assign (some .divide)), (['/'], .operation .divide),
  (['%', '='], .assign (some .remainder)), (['%'], .operation .remainder),
  (['+', '='], .assign (some .add)), (['+'], .operation .add),
  (['-', '='], .assign (some .subtract)), (['-'], .operation .subtract),
  (['?'], .question), ([':'], .colon), (['('], .openParenthesis), ([')'], .closeParenthesis)]

/-- The sign at the start of a text, and what follows it. -/
def takeSign? (chars : List Char) : Option (ArithmeticToken × List Char) :=
  signs.findSome? fun (sign, token) =>
    if sign.isPrefixOf chars then some (token, chars.drop sign.length) else none

/-- The first sign, number or name of an expression, and what follows it. -/
def takeToken (chars : List Char) : ArithmeticToken × List Char :=
  let start := chars.dropWhile fun char => char == ' ' || char == '\t' || char == '\n'
  match start with
  | [] => (.finish, [])
  | char :: _ =>
    if char.isDigit then
      let reading := readInteger 0 start
      (.number reading.value, reading.rest)
    else if isNameStart char then
      let name := start.takeWhile isNameChar
      (.name (String.ofList name), start.drop name.length)
    else
      match takeSign? start with
      | some found => found
      | none => (.unknown, start)

/-- A variable as expressions see it, with the values that they have given to variables so far. -/
structure Evaluation where
  rest : List Char
  /-- The last sign that has been read. -/
  last : ArithmeticToken := .finish
  /-- The values of the variables from outside. -/
  outside : Octets → Option Octets
  assigned : List (Octets × Int) := []

/-- A step of evaluating, which a fault ends. -/
abbrev Evaluator := StateT Evaluation (Except ArithmeticFault)

/-- Reads a sign, a number or a name. -/
def next : Evaluator ArithmeticToken := do
  let state ← get
  let (token, rest) := takeToken state.rest
  set { state with rest, last := token }
  return token

/-- The value of a variable; a missing one is zero. -/
def valueOf (name : Octets) : Evaluator Int := do
  let state ← get
  match state.assigned.lookup name with
  | some value => return value
  | none =>
    let text := (state.outside name).getD ""
    match integer? 0 text with
    | some value => return value
    | none => throw (.illegalNumber text)

/-- A number as one of 64 bits. -/
def wrap (value : Int) : Int :=
  (Int64.ofInt value).toInt

/-- A number for the answer to a question. -/
def truth (answer : Bool) : Int :=
  if answer then 1 else 0

/-- The result of an operation. -/
def apply (operation : Operation) (left right : Int) : Evaluator Int :=
  match operation with
  | .multiply => return wrap (left * right)
  | .divide => if right = 0 then throw .divisionByZero else return wrap (left.tdiv right)
  | .remainder => if right = 0 then throw .divisionByZero else return left.tmod right
  | .add => return wrap (left + right)
  | .subtract => return wrap (left - right)
  | .shiftLeft => return (Int64.ofInt left <<< Int64.ofInt right).toInt
  | .shiftRight => return (Int64.ofInt left >>> Int64.ofInt right).toInt
  | .less => return truth (left < right)
  | .lessOrEqual => return truth (left ≤ right)
  | .greater => return truth (right < left)
  | .greaterOrEqual => return truth (right ≤ left)
  | .equal => return truth (left == right)
  | .unequal => return truth (left != right)
  | .bitAnd => return (Int64.ofInt left &&& Int64.ofInt right).toInt
  | .bitXor => return (Int64.ofInt left ^^^ Int64.ofInt right).toInt
  | .bitOr => return (Int64.ofInt left ||| Int64.ofInt right).toInt

mutual

/-- Evaluates an assignment or an expression without one, which starts with a given sign; `skipped`
expressions are read without their effects, and `fuel` bounds how deep expressions are nested. -/
def assignment : Nat → (skipped : Bool) → ArithmeticToken → Evaluator Int
  | 0, _, _ => throw .wantsPrimary
  | fuel + 1, skipped, first => do
    let second ← next
    match first, second with
    | .name name, .assign operation =>
      let value ← assignment fuel skipped (← next)
      if skipped then return value
      else
        let result ←
          match operation with
          | some operation => apply operation (← valueOf name) value
          | none => pure value
        modify fun state => { state with assigned := (name, result) :: state.assigned }
        return result
    | _, _ => choice fuel skipped first second

/-- Evaluates a choice between two expressions, or an expression without one. -/
def choice : Nat → (skipped : Bool) → ArithmeticToken → ArithmeticToken → Evaluator Int
  | 0, _, _, _ => throw .wantsPrimary
  | fuel + 1, skipped, first, second => do
    let condition ← either fuel skipped first second
    if (← get).last == .question then
      let whenTrue ← assignment fuel (skipped || condition == 0) (← next)
      if (← get).last == .colon then
        let third ← next
        let fourth ← next
        let whenFalse ← choice fuel (skipped || condition != 0) third fourth
        return if condition != 0 then whenTrue else whenFalse
      else throw .wantsColon
    else return condition

/-- Evaluates expressions of which one must be true. -/
def either : Nat → (skipped : Bool) → ArithmeticToken → ArithmeticToken → Evaluator Int
  | 0, _, _, _ => throw .wantsPrimary
  | fuel + 1, skipped, first, second => do
    let left ← both fuel skipped first second
    if (← get).last == .either then
      let third ← next
      let fourth ← next
      let right ← either fuel (skipped || left != 0) third fourth
      return truth (left != 0 || right != 0)
    else return left

/-- Evaluates expressions all of which must be true. -/
def both : Nat → (skipped : Bool) → ArithmeticToken → ArithmeticToken → Evaluator Int
  | 0, _, _, _ => throw .wantsPrimary
  | fuel + 1, skipped, first, second => do
    let left ← operand fuel skipped first second
    match (← get).last with
    | .operation operation => bothFrom fuel skipped (← operationsFrom fuel skipped 8 left operation)
    | _ => bothFrom fuel skipped left

/-- Evaluates what follows the first of some expressions all of which must be true. -/
def bothFrom : Nat → (skipped : Bool) → Int → Evaluator Int
  | 0, _, _ => throw .wantsPrimary
  | fuel + 1, skipped, left => do
    if (← get).last == .both then
      let third ← next
      let fourth ← next
      let right ← both fuel (skipped || left == 0) third fourth
      return truth (left != 0 && right != 0)
    else return left

/-- Evaluates the operations that follow a number, as long as they bind closer than `limit`. -/
def operationsFrom : Nat → (skipped : Bool) → (limit : Nat) → Int → Operation → Evaluator Int
  | 0, _, _, _, _ => throw .wantsPrimary
  | fuel + 1, skipped, limit, left, operation => do
    let first ← next
    let second ← next
    let right ← operand fuel skipped first second
    let right ←
      match (← get).last with
      | .operation closer =>
        if closer.rank < operation.rank then
          operationsFrom fuel skipped operation.rank right closer
        else pure right
      | _ => pure right
    let result ← if skipped then pure right else apply operation left right
    match (← get).last with
    | .operation further =>
      if limit ≤ further.rank then return result
      else operationsFrom fuel skipped limit result further
    | _ => return result

/-- Evaluates a number, a variable or an expression in parentheses, with the signs in front of it.
-/
def operand : Nat → (skipped : Bool) → ArithmeticToken → ArithmeticToken → Evaluator Int
  | 0, _, _, _ => throw .wantsPrimary
  | fuel + 1, skipped, first, second => do
    let negated : Evaluator Int := do operand fuel skipped second (← next)
    match first with
    | .openParenthesis =>
      let value ← assignment fuel skipped second
      if (← get).last == .closeParenthesis then
        discard next
        return value
      else throw .wantsParenthesis
    | .number value => return value
    | .name name => if skipped then return 0 else valueOf name
    | .operation .add => negated
    | .operation .subtract => return wrap (-(← negated))
    | .not => return truth ((← negated) == 0)
    | .complement => return -(← negated) - 1
    | _ => throw .wantsPrimary

end

/-- The value of an expression, and what it assigns to variables, the last assignment first. -/
def evaluate (outside : Octets → Option Octets) (expression : Octets) :
    Except ArithmeticFault (Int × List (Octets × Int)) := do
  let evaluator : Evaluator Int := do
    let value ← assignment (16 * expression.length + 64) false (← next)
    if (← get).last == .finish then return value else throw .wantsEnd
  let (value, state) ← evaluator.run { rest := expression.toList, outside }
  return (value, state.assigned)

end Arithmetic

end TapeAdmin.Shell
