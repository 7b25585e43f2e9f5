import TapeAdmin.Proofs.Console.Writing

/-!
# Command lines of requests

For each request the chain of verbs that asks for it, and the command lines that are a writing of
such a chain. Reading any of them gives the request and the options for every request back, unless
the target is one that cannot be given.
-/

namespace TapeAdmin

/-- The verb for an operation, with its count. -/
def TapeOperation.clause : TapeOperation → Clause
  | .status => ⟨.tapeStatus, {}⟩
  | .rewind => ⟨.tapeRewind, {}⟩
  | .offline => ⟨.tapeOffline, {}⟩
  | .load => ⟨.tapeLoad, {}⟩
  | .tell => ⟨.tapeTell, {}⟩
  | .spaceForward count => ⟨.tapeForward, { count := some count }⟩
  | .spaceBackward count => ⟨.tapeBackward, { count := some count }⟩
  | .retension => ⟨.tapeRetension, {}⟩
  | .clean => ⟨.tapeClean, {}⟩
  | .reset => ⟨.tapeReset, {}⟩
  | .eject => ⟨.tapeEject, {}⟩

/-- The verb for what is done with attributes, with its options. -/
def AttributeRequest.clause : AttributeRequest → Clause
  | .summary => ⟨.attributesSummary, {}⟩
  | .read id partition => ⟨.attributesRead, { attributeId := id, partition := partition }⟩
  | .write id value partition =>
    ⟨.attributesWrite,
      { attributeId := some id, attributeValue := some value, partition := partition }⟩

namespace Request

/-- The verbs for a request, each with its own arguments. -/
def clauses : Request → List Clause
  | .list detailed json => [⟨.list, { detailed := detailed, json := json }⟩]
  | .select target => [⟨.select, { target := target }⟩]
  | .info target => [⟨.info, { target := target }⟩]
  | .operate target operation => [⟨.tape, { target := target }⟩, operation.clause]
  | .eject target => [⟨.eject, { target := target }⟩]
  | .mount target mountPoint options =>
    [⟨.mount, { target := target, mountPoint := mountPoint, mountOptions := options }⟩]
  | .unmount mountPoint => [⟨.unmount, { mountPoint := some mountPoint }⟩]
  | .mounts => [⟨.mounts, {}⟩]
  | .format target label force blockSize assumeYes =>
    [⟨.format, {
      target := target
      label := label
      force := force
      blockSize := blockSize
      assumeYes := assumeYes }⟩]
  | .diagnose target suite allowWrite output =>
    [⟨.diagnose, {
      target := target
      suite := some suite
      allowWrite := allowWrite
      output := output }⟩]
  | .attributes target action => [⟨.attributes, { target := target }⟩, action.clause]
  | .status => [⟨.status, {}⟩]

theorem chainMeaning_clauses (request : Request) :
    Clause.chainMeaning (⟨.program, {}⟩ :: request.clauses) = .ok (.request request) := by
  cases request with
  | operate target operation => cases operation <;> rfl
  | attributes target action => cases action <;> rfl
  | _ => rfl

theorem linked_clauses (request : Request) :
    Verb.Linked (.program :: request.clauses.map Clause.verb) := by
  cases request with
  | operate target operation =>
      cases operation <;>
        simp [clauses, TapeOperation.clause, Verb.Linked, Verb.successors, Verb.isIncomplete]
  | attributes target action =>
      cases action <;>
        simp [clauses, AttributeRequest.clause, Verb.Linked, Verb.successors, Verb.isIncomplete]
  | _ => simp [clauses, Verb.Linked, Verb.successors, Verb.isIncomplete]

end Request

namespace Clause

/-- A clause without the arguments that every verb takes. -/
def own (clause : Clause) : Clause where
  verb := clause.verb
  values := { clause.values with verbose := false, logJson := false, configuration := none }

/-- What a chain means does not depend on the arguments that every verb takes. -/
theorem chainMeaning_own (clauses : List Clause) :
    chainMeaning (clauses.map own) = chainMeaning clauses := by
  have meaning_own (clause : Clause) (inner : Option Meaning) :
      clause.own.verb.meaning clause.own.values inner =
        clause.verb.meaning clause.values inner := by
    rcases clause with ⟨verb, values⟩
    cases verb <;> rfl
  induction clauses with
  | nil => rfl
  | cons clause rest ih =>
      cases rest with
      | nil => exact meaning_own clause none
      | cons next rest =>
          rw [List.map_cons, List.map_cons, chainMeaning, chainMeaning, ← List.map_cons, ih]
          simp only [meaning_own]

end Clause

namespace Invocation

/-- A chain of verbs that asks for a request. Each of the options that every verb takes stands
behind one of the verbs. -/
structure IsChain (invocation : Invocation) (clauses : List Clause) : Prop where
  own : clauses.map Clause.own = ⟨.program, {}⟩ :: invocation.request.clauses
  verbose : clauses.countP (·.values.verbose) = invocation.verbose.toNat
  logJson : clauses.countP (·.values.logJson) = invocation.logJson.toNat
  configuration : clauses.filterMap (·.values.configuration) = invocation.configuration.toList

/-- The words behind the name of the program by which a request is written. -/
def Written (invocation : Invocation) (words : List String) : Prop :=
  ∃ clauses, invocation.IsChain clauses ∧ Clause.ChainWritten clauses words

/-- A request whose values can be given: no path is empty, and numbers and modes are in range. -/
structure Valid (invocation : Invocation) : Prop where
  configuration : ∀ path, invocation.configuration = some path → path.text ≠ ""
  arguments : ∀ clause ∈ invocation.request.clauses, clause.values.Valid

end Invocation

namespace Clause

/-! ### The options that every verb takes -/

/-- A flag that is set behind any of the verbs is set. -/
theorem any_chainValues (is_set : ArgumentValues → Bool) (unset : is_set {} = false)
    (general : ∀ values inner : ArgumentValues,
      is_set (values.general inner) = (is_set values || is_set inner))
    (clauses : List Clause) :
    is_set (chainValues clauses) = clauses.any (is_set ·.values) := by
  induction clauses with
  | nil => exact unset
  | cons clause rest ih =>
      cases rest with
      | nil => simp [chainValues]
      | cons next rest =>
          rw [chainValues, general, ih]
          rfl

/-- Of several configurations the last one counts. -/
theorem configuration_chainValues (clauses : List Clause) :
    (chainValues clauses).configuration =
      (clauses.filterMap (·.values.configuration)).getLast? := by
  induction clauses with
  | nil => rfl
  | cons clause rest ih =>
      cases rest with
      | nil => cases given : clause.values.configuration <;> simp [chainValues, given]
      | cons next rest =>
          change ((chainValues (next :: rest)).configuration <|> clause.values.configuration) = _
          rw [ih]
          cases given : clause.values.configuration with
          | none =>
              have unchanged : (clause :: next :: rest).filterMap (·.values.configuration) =
                  (next :: rest).filterMap (·.values.configuration) :=
                List.filterMap_cons_none given
              rw [unchanged]
              cases ((next :: rest).filterMap (·.values.configuration)).getLast? <;> rfl
          | some path =>
              have added : (clause :: next :: rest).filterMap (·.values.configuration) =
                  path :: (next :: rest).filterMap (·.values.configuration) :=
                List.filterMap_cons_some given
              rw [added, List.getLast?_cons]
              cases ((next :: rest).filterMap (·.values.configuration)).getLast? <;> rfl

end Clause

theorem any_eq_of_countP {α : Type} {holds : α → Bool} {members : List α} {is_set : Bool}
    (counted : members.countP holds = is_set.toNat) : members.any holds = is_set := by
  cases is_set with
  | true =>
      have some_holds : 0 < members.countP holds := by
        rw [counted]
        exact Nat.one_pos
      exact List.any_eq_true.mpr (List.countP_pos_iff.mp some_holds)
  | false => simpa using List.countP_eq_zero.mp counted

namespace Invocation

variable {invocation : Invocation} {clauses : List Clause} {words : List String}

theorem IsChain.valid (chain : invocation.IsChain clauses) (valid : invocation.Valid) :
    ∀ clause ∈ clauses, clause.values.Valid := by
  intro clause clause_mem
  have own_mem : clause.own ∈ ⟨.program, {}⟩ :: invocation.request.clauses := by
    rw [← chain.own]
    exact List.mem_map_of_mem clause_mem
  have own_valid : clause.own.values.Valid := by
    rcases List.mem_cons.mp own_mem with first | later
    · rw [first]
      constructor <;> nofun
    · exact valid.arguments _ later
  refine ⟨?_, own_valid.device, own_valid.drive, own_valid.mode, own_valid.blockSize,
    own_valid.output, own_valid.mountPoint, own_valid.count⟩
  intro path given
  apply valid.configuration
  rw [← Option.mem_toList, ← chain.configuration]
  exact List.mem_filterMap.mpr ⟨clause, clause_mem, given⟩

/-- Without a ban, a command line that was written is read as the request it was written for. -/
theorem readFreely_of_written (valid : invocation.Valid) (written : invocation.Written words)
    (name : String) : readFreely (name :: words) = .ok invocation := by
  rcases written with ⟨clauses, chain, chain_written⟩
  have linked : Verb.Linked (clauses.map Clause.verb) := by
    have verbs := congrArg (List.map Clause.verb) chain.own
    rw [List.map_map] at verbs
    change clauses.map Clause.verb = _ at verbs
    rw [verbs]
    exact invocation.request.linked_clauses
  have meaning : Clause.chainMeaning clauses = .ok (.request invocation.request) := by
    rw [← Clause.chainMeaning_own, chain.own, Request.chainMeaning_clauses]
  have read := Clause.readFreely_of_chainWritten (chain.valid valid) linked chain_written
  rcases List.map_eq_cons_iff.mp chain.own with ⟨first, others, clauses_eq, first_own, _⟩
  have first_verb : first.verb = .program := congrArg Clause.verb first_own
  have first_read := read first (by rw [clauses_eq]; rfl)
  rw [first_verb, meaning] at first_read
  have verbose : (Clause.chainValues clauses).verbose = invocation.verbose := by
    rw [Clause.any_chainValues (·.verbose) rfl fun _ _ => rfl, any_eq_of_countP chain.verbose]
  have logJson : (Clause.chainValues clauses).logJson = invocation.logJson := by
    rw [Clause.any_chainValues (·.logJson) rfl fun _ _ => rfl, any_eq_of_countP chain.logJson]
  have configuration : (Clause.chainValues clauses).configuration = invocation.configuration := by
    rw [Clause.configuration_chainValues, chain.configuration]
    cases invocation.configuration <;> rfl
  rw [readFreely, List.drop_succ_cons, List.drop_zero, first_read]
  dsimp only [Except.map, bind, Except.bind]
  rw [verbose, logJson, configuration]
  rfl

end Invocation

end TapeAdmin
