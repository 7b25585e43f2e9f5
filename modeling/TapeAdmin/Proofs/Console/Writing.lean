import TapeAdmin.Proofs.Console.Spelling
import TapeAdmin.Proofs.Console.Values

/-!
# Writing command lines

A request is written as a chain of verbs, each with its own arguments in any order, and the options
that every verb takes stand behind any of the verbs. Whatever the values are, also empty ones and
ones that look like options, such a command line is read as the request that was written.
-/

namespace TapeAdmin

/-- An argument that is given, and the text of its value. -/
structure ArgumentText where
  argument : Argument
  text : String

namespace ArgumentText

/-- The texts that are given for an argument, in order. -/
def texts (argument : Argument) (told : List ArgumentText) : List String :=
  (told.filter fun one => one.argument = argument).map ArgumentText.text

variable {argument : Argument}

theorem texts_append (told later : List ArgumentText) :
    texts argument (told ++ later) = texts argument told ++ texts argument later := by
  simp [texts]

theorem texts_cons_self (one : ArgumentText) (later : List ArgumentText) :
    texts one.argument (one :: later) = one.text :: texts one.argument later := by
  simp [texts]

theorem count_eq (told : List ArgumentText) :
    (told.map ArgumentText.argument).count argument = (texts argument told).length := by
  rw [texts, List.length_map, List.count, List.countP_map, List.countP_eq_length_filter]
  rfl

/-- Words by which a verb is given some arguments, one after another. -/
inductive Spelled (verb : Verb) : List ArgumentText → List String → Prop where
  | nil : Spelled verb [] []
  | cons {one : ArgumentText} {told : List ArgumentText} {words rest : List String}
      (here : verb.Spells one.argument one.text words) (later : Spelled verb told rest) :
      Spelled verb (one :: told) (words ++ rest)

end ArgumentText

/-- A verb with the values of its arguments. -/
structure Clause where
  verb : Verb
  values : ArgumentValues

namespace Clause

/-- The arguments that are given are those of the values, each with its texts. -/
def Tells (clause : Clause) (told : List ArgumentText) : Prop :=
  ∀ argument, clause.values.IsWritten argument (ArgumentText.texts argument told)

/-- The words behind a verb that no other verb follows. A positional value may stand at the end,
behind a separator. -/
inductive Written (clause : Clause) : List String → Prop where
  | plain {told : List ArgumentText} {words : List String} (tells : clause.Tells told)
      (spelled : ArgumentText.Spelled clause.verb told words) : clause.Written words
  | behind {told : List ArgumentText} {words : List String} {one : ArgumentText}
      (placed : one.argument ∈ clause.verb.positions)
      (tells : clause.Tells (told ++ [one]))
      (spelled : ArgumentText.Spelled clause.verb told words) :
      clause.Written (words ++ ["--", one.text])

/-- The words behind the first of the verbs. -/
inductive ChainWritten : List Clause → List String → Prop where
  | last {clause : Clause} {words : List String} (written : clause.Written words) :
      ChainWritten [clause] words
  | next {clause next : Clause} {rest : List Clause} {told : List ArgumentText}
      {words later : List String} (tells : clause.Tells told)
      (spelled : ArgumentText.Spelled clause.verb told words)
      (follows : ChainWritten (next :: rest) later) :
      ChainWritten (clause :: next :: rest) (words ++ next.verb.word :: later)

/-! ### Reading the arguments of a verb -/

/-- The state in which some arguments of a verb are in. -/
def reached (clause : Clause) (given : List Argument) : ArgumentState where
  verb := clause.verb
  values := clause.values.upTo given
  given := given
  free := clause.verb.positions.filter (· ∉ given)

theorem reached_nil (clause : Clause) : clause.reached [] = .after clause.verb := by
  simp [reached, ArgumentState.after, ArgumentValues.upTo_nil]

variable {clause : Clause} {told later : List ArgumentText} {one : ArgumentText}

theorem fresh_of_tells (tells : clause.Tells (told ++ one :: later))
    (once : one.argument.isRepeatable = false) :
    one.argument ∉ told.map ArgumentText.argument := by
  have written := tells one.argument
  have length_le := ArgumentValues.length_le_of_isWritten once written
  rw [ArgumentText.texts_append, ArgumentText.texts_cons_self, List.length_append, List.length_cons,
    ← ArgumentText.count_eq] at length_le
  rw [← List.count_eq_zero]
  omega

/-- The next argument comes in with its value. -/
theorem accept_reached (valid : clause.values.Valid)
    (tells : clause.Tells (told ++ one :: later)) (free : List Argument) (separated : Bool) :
    { clause.reached (told.map ArgumentText.argument) with
        free := free, separated := separated }.accept one.argument one.text =
      .ok { clause.reached ((told ++ [one]).map ArgumentText.argument) with
        free := free, separated := separated } := by
  have written := tells one.argument
  rw [ArgumentText.texts_append, ArgumentText.texts_cons_self] at written
  have stored := ArgumentValues.store_upTo valid written (ArgumentText.count_eq told)
  refine ArgumentState.accept_eq_ok_iff.mpr ⟨?_, _, stored, ?_⟩
  · cases once : one.argument.isRepeatable with
    | true => simp
    | false => simpa [reached] using fresh_of_tells tells once
  · simp [reached]

/-- A positional value is no longer free once it is given. -/
theorem free_reached (given : List Argument) (argument : Argument) :
    (clause.reached given).free.filter (· ≠ argument) =
      (clause.reached (given ++ [argument])).free := by
  simp only [reached, List.filter_filter]
  refine List.filter_congr fun other _ => ?_
  simp [Bool.and_comm]

/-- Reading the words for arguments leads to the state in which they are in. -/
theorem readsTo_arguments (valid : clause.values.Valid) {state : ArgumentState}
    {told given later : List ArgumentText} {words : List String}
    (settles : state.settle = .ok (clause.reached (told.map ArgumentText.argument)))
    (tells : clause.Tells (told ++ given ++ later))
    (spelled : ArgumentText.Spelled clause.verb given words) :
    state.ReadsTo words (clause.reached ((told ++ given).map ArgumentText.argument)) := by
  induction spelled generalizing state told with
  | nil => exact ⟨state, by rwa [List.append_nil], fun rest => rfl⟩
  | @cons one given words rest here others ih =>
      have next_tells : clause.Tells (told ++ one :: (given ++ later)) := by
        rwa [List.append_assoc, List.cons_append] at tells
      have is_free : one.argument ∈ clause.verb.positions →
          one.argument ∈ (clause.reached (told.map ArgumentText.argument)).free := by
        intro placed
        have fresh := fresh_of_tells next_tells (Verb.once_of_position placed)
        exact List.mem_filter.mpr ⟨placed, decide_eq_true fresh⟩
      have accepted := accept_reached valid next_tells
        ((clause.reached (told.map ArgumentText.argument)).free.filter (· ≠ one.argument)) false
      rcases ArgumentState.readsTo_of_spells (ArgumentState.settles_of_settle settles) rfl here
        List.filter_sublist is_free accepted with ⟨between, between_settles, between_reads⟩
      rw [free_reached, ← List.map_singleton, ← List.map_append] at between_settles
      have rest_tells : clause.Tells (told ++ [one] ++ given ++ later) := by
        rwa [List.append_assoc told, List.singleton_append]
      rcases ih between_settles rest_tells with ⟨after, after_settles, after_reads⟩
      refine ⟨after, ?_, fun behind => ?_⟩
      · rwa [List.append_assoc, List.singleton_append] at after_settles
      · rw [List.append_assoc, between_reads, after_reads]

/-- The words behind a verb are read up to a state in which their arguments are in. -/
theorem readsTo_first (valid : clause.values.Valid) {words : List String}
    (tells : clause.Tells (told ++ later)) (spelled : ArgumentText.Spelled clause.verb told words) :
    (ArgumentState.after clause.verb).ReadsTo words
      (clause.reached (told.map ArgumentText.argument)) := by
  have starts : (ArgumentState.after clause.verb).settle = .ok (clause.reached []) := by
    rw [← reached_nil]
    exact ArgumentState.settle_of_pending_none rfl
  have from_start : clause.Tells ([] ++ told ++ later) := tells
  exact readsTo_arguments valid starts from_start spelled

/-- Once all arguments are in, the verb has its meaning, whatever follows it. -/
theorem finishFreely_reached {state : ArgumentState} {free : List Argument} {separated : Bool}
    {inner : Option Meaning} (tells : clause.Tells told)
    (settles : state.settle = .ok { clause.reached (told.map ArgumentText.argument) with
      free := free, separated := separated })
    (complete : (clause.verb.isIncomplete && inner.isNone) = false) :
    state.finishFreely inner =
      (clause.verb.meaning clause.values inner).map (·, clause.values) := by
  have all_in : clause.values.upTo (told.map ArgumentText.argument) = clause.values := by
    refine ArgumentValues.upTo_eq fun argument => ⟨_, tells argument, ?_⟩
    exact ArgumentText.count_eq told
  rw [ArgumentState.finishFreely_run settles complete]
  simp only [reached, all_in]

/-- The words behind a verb that no other verb follows are read as its values. -/
theorem readFreely_of_written {words : List String} (valid : clause.values.Valid)
    (complete : clause.verb.isIncomplete = false) (written : clause.Written words) :
    readArgumentsFreely (.after clause.verb) words =
      (clause.verb.meaning clause.values none).map (·, clause.values) := by
  have ended : (clause.verb.isIncomplete && (none : Option Meaning).isNone) = false := by
    rw [complete, Bool.false_and]
  cases written with
  | @plain told words tells spelled =>
      have all_told : clause.Tells (told ++ []) := by rwa [List.append_nil]
      rcases readsTo_first valid all_told spelled with ⟨after, settles, reads⟩
      rw [← List.append_nil words, reads]
      exact finishFreely_reached tells settles ended
  | @behind told words one placed tells spelled =>
      rcases readsTo_first valid tells spelled with ⟨between, settles, reads⟩
      have fresh := fresh_of_tells tells (Verb.once_of_position placed)
      have free_eq : (clause.reached (told.map ArgumentText.argument)).free = [one.argument] := by
        rw [reached, Verb.positions_of_mem placed, List.filter_singleton, decide_eq_true fresh]
        rfl
      rcases ArgumentState.readsTo_behind (ArgumentState.settles_of_settle settles) rfl free_eq
        (accept_reached valid tells [] true) with ⟨after, after_settles, after_reads⟩
      rw [reads, ← List.append_nil ["--", one.text], after_reads]
      exact finishFreely_reached tells after_settles ended

/-! ### Chains of verbs -/

/-- What a chain of verbs means. -/
def chainMeaning : List Clause → Except UsageFault Meaning
  | [] => .error .missingVerb
  | [clause] => clause.verb.meaning clause.values none
  | clause :: next :: rest => do
    clause.verb.meaning clause.values (some (← chainMeaning (next :: rest)))

/-- The values of the first verb of a chain, overridden by those that later verbs have of the
arguments that every verb takes. -/
def chainValues : List Clause → ArgumentValues
  | [] => {}
  | [clause] => clause.values
  | clause :: next :: rest => clause.values.general (chainValues (next :: rest))

end Clause

/-- Every verb is followed by one that may follow it, and the last one needs none. -/
def Verb.Linked : List Verb → Prop
  | [] => False
  | [verb] => verb.isIncomplete = false
  | verb :: next :: rest => next ∈ verb.successors ∧ Linked (next :: rest)

namespace Clause

variable {clauses : List Clause} {words : List String}

/-- Reading the words of a chain gives its meaning. -/
theorem readFreely_of_chainWritten (valid : ∀ clause ∈ clauses, clause.values.Valid)
    (linked : Verb.Linked (clauses.map Clause.verb)) (written : ChainWritten clauses words) :
    ∀ first ∈ clauses.head?, readArgumentsFreely (.after first.verb) words =
      (chainMeaning clauses).map (·, chainValues clauses) := by
  induction written with
  | last written =>
      rintro first ⟨⟩
      exact readFreely_of_written (valid _ List.mem_cons_self) linked written
  | @next clause next rest told words later tells spelled follows ih =>
      rintro first ⟨⟩
      rcases linked with ⟨next_mem, rest_linked⟩
      have follower := ih (fun other other_mem => valid other (List.mem_cons_of_mem _ other_mem))
        rest_linked next rfl
      have all_told : clause.Tells (told ++ []) := by rwa [List.append_nil]
      rcases readsTo_first (valid _ List.mem_cons_self) all_told spelled with
        ⟨after, settles, reads⟩
      have settled := ArgumentState.settles_of_settle settles
      have reading : after.readVerb next.verb.word = .verb next.verb :=
        ArgumentState.readVerb_of_successor (by rwa [← settled.verb]) settled.separated.symm
          settled.awaitsValue
      rw [reads, readArgumentsFreely, reading]
      dsimp only
      rw [follower, chainMeaning, chainValues]
      cases chainMeaning (next :: rest) with
      | error fault => rfl
      | ok inner =>
          have finished : after.finishFreely (some inner) =
              (clause.verb.meaning clause.values (some inner)).map (·, clause.values) :=
            finishFreely_reached tells settles (by simp)
          dsimp only [Except.map, bind, Except.bind]
          rw [finished]
          cases clause.verb.meaning clause.values (some inner) <;> rfl

end Clause

end TapeAdmin
