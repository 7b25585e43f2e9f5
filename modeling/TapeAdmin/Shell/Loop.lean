import TapeAdmin.Shell.Environment

/-!
# Loops

Repeats acts, which may end a loop or a round of it, or those of the loops around it. What the loops
repeat is given to them, so that they say nothing about commands.
-/

namespace TapeAdmin.Shell

/-- What becomes of a part of a round. -/
inductive RoundEnd (α : Type) where
  | value (value : α)
  /-- The loop goes on with its next round. -/
  | next
  /-- The loop is over. -/
  | over
  deriving Repr

namespace Act

/-- Does a part of a round of the innermost loop. -/
def inRound {α : Type} (act : Act α) : Act (RoundEnd α) := do
  match ← attempt act with
  | .ok value => return .value value
  | .error (.leave loops) => if 1 < loops then throw (.leave (loops - 1)) else return .over
  | .error (.nextRound loops) => if 1 < loops then throw (.nextRound (loops - 1)) else return .next
  | .error interruption => throw interruption

/-- Does something in a loop more than there was. -/
def inLoop {α : Type} (act : Act α) : Act α := do
  let loops := (← shell).loops
  changeShell fun shell => { shell with loops := loops + 1 }
  finally' act fun shell => { shell with loops }

/-- Repeats a body as long as a question is answered with yes, and returns the status of the last
body; `rounds` bounds how often. -/
def repeatWhile (goesOn : Act Bool) (body : Act Unit) : (rounds : Nat) → (status : Nat) → Act Nat
  | 0, _ => throw .endless
  | rounds + 1, before => do
    match ← inRound goesOn with
    | .over | .value false => return before
    | .next => repeatWhile goesOn body rounds before
    | .value true =>
      let round ← inRound body
      let after ← status
      match round with
      | .over => return after
      | .value _ | .next => repeatWhile goesOn body rounds after

/-- Does a body for each of several texts, and returns the status of the last body. -/
def forEach (body : Octets → Act Unit) : (status : Nat) → List Octets → Act Nat
  | before, [] => return before
  | _, text :: texts => do
    let round ← inRound (body text)
    let after ← status
    match round with
    | .over => return after
    | .value _ | .next => forEach body after texts

end Act

end TapeAdmin.Shell
