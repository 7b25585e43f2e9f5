import TapeAdmin.Console.Arguments
import TapeAdmin.Proofs.Result

/-!
# States of the reader of the command line

What an argument changes when its value is taken in, and what is left alone when an argument that
waited is.
-/

namespace TapeAdmin

namespace ArgumentState

variable {state settled next : ArgumentState} {argument : Argument} {text word : String}

theorem settle_of_pending_none (settled : state.pending = none) : state.settle = .ok state := by
  rw [settle, settled]

/-- Taking an argument in changes nothing but the values and the list of what is given. -/
theorem accept_eq_ok_iff :
    state.accept argument text = .ok next ↔
      (state.given.contains argument && !argument.isRepeatable) = false ∧
      ∃ values, state.values.store text argument = .ok values ∧
        next = { state with values := values, given := state.given ++ [argument] } := by
  rw [accept]
  split
  · next repeated =>
      constructor
      · intro impossible
        cases impossible
      · rintro ⟨fresh, _⟩
        rw [repeated] at fresh
        cases fresh
  · next fresh =>
      rw [Bool.not_eq_true] at fresh
      constructor
      · intro accepted
        rcases exists_of_bind_ok accepted with ⟨values, stored, rest⟩
        cases rest
        exact ⟨fresh, values, stored, rfl⟩
      · rintro ⟨_, values, stored, rfl⟩
        rw [stored]
        rfl

/-- What settling leaves alone. -/
structure Settles (state settled : ArgumentState) : Prop where
  settle : state.settle = .ok settled
  verb : settled.verb = state.verb
  free : settled.free = state.free
  separated : settled.separated = state.separated
  pending : settled.pending = none
  awaitsValue : state.awaitsValue = false

theorem settles_of_settle (settle_eq : state.settle = .ok settled) : state.Settles settled := by
  have settled_eq := settle_eq
  rw [settle] at settle_eq
  split at settle_eq
  · next nothing =>
      cases settle_eq
      exact ⟨settled_eq, rfl, rfl, rfl, nothing, by rw [awaitsValue, nothing]⟩
  · cases settle_eq
  · next held =>
      rcases accept_eq_ok_iff.mp settle_eq with ⟨_, values, _, rfl⟩
      exact ⟨settled_eq, rfl, rfl, rfl, rfl, by rw [awaitsValue, held]⟩

/-- How positional values are read does not matter for settling. -/
theorem Settles.with_positions (settles : state.Settles settled) (free : List Argument)
    (separated : Bool) :
    { state with free := free, separated := separated }.Settles
      { settled with free := free, separated := separated } := by
  apply settles_of_settle
  have settle_eq := settles.settle
  rw [ArgumentState.settle] at settle_eq ⊢
  split at settle_eq
  · next nothing =>
      cases settle_eq
      simp only [nothing]
  · cases settle_eq
  · next held =>
      rcases accept_eq_ok_iff.mp settle_eq with ⟨fresh, values, stored, rfl⟩
      simp only [held]
      exact accept_eq_ok_iff.mpr ⟨fresh, values, stored, rfl⟩

theorem Settles.of_accept (settles : state.Settles settled)
    (accepted : settled.accept argument text = .ok next) : next.settle = .ok next := by
  rcases accept_eq_ok_iff.mp accepted with ⟨_, values, _, rfl⟩
  exact settle_of_pending_none settles.pending

theorem acceptNow_eq (settles : state.Settles settled) :
    state.acceptNow argument text = settled.accept argument text := by
  rw [acceptNow, settles.settle]
  rfl

theorem await_eq (settles : state.Settles settled) (value : Option String) :
    state.await argument value = .ok { settled with pending := some (argument, value) } := by
  rw [await, settles.settle]
  rfl

end ArgumentState

end TapeAdmin
