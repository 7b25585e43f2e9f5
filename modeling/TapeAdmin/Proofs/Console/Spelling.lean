import Mathlib.Data.List.Infix
import TapeAdmin.Proofs.Console.Exclusion
import TapeAdmin.Proofs.Text.Search

/-!
# The words for one argument

An argument is written by its long name or by its letter, and a value stands behind an equals sign,
right behind the letter, or in a word of its own. A positional value is a word of its own. Whichever
way an argument is written, reading its words takes its value in, at the latest when something comes
after them.
-/

namespace TapeAdmin

open Text (splitFirst?_append)

/-- A word that is not read as an option, wherever it stands. -/
def LooksPlain (word : String) : Prop :=
  word.toList.head? ≠ some '-'

/-- The words by which an argument of a verb and the text of its value are given. -/
inductive Verb.Spells (verb : Verb) : Argument → String → List String → Prop where
  | flag {argument : Argument} {name : String} (known : argument ∈ verb.options)
      (is_flag : argument.isFlag = true) (named : argument.long? = some name) :
      verb.Spells argument "" ["--" ++ name]
  | letterFlag {argument : Argument} {letter : Char} (known : argument ∈ verb.options)
      (is_flag : argument.isFlag = true) (lettered : argument.short? = some letter) :
      verb.Spells argument "" [String.ofList ['-', letter]]
  | attached {argument : Argument} {name text : String} (known : argument ∈ verb.options)
      (valued : argument.isFlag = false) (named : argument.long? = some name) :
      verb.Spells argument text ["--" ++ name ++ "=" ++ text]
  | separate {argument : Argument} {name text : String} (known : argument ∈ verb.options)
      (valued : argument.isFlag = false) (named : argument.long? = some name)
      (plain : LooksPlain text) : verb.Spells argument text ["--" ++ name, text]
  | letterEquals {argument : Argument} {letter : Char} {text : String}
      (known : argument ∈ verb.options) (valued : argument.isFlag = false)
      (lettered : argument.short? = some letter) :
      verb.Spells argument text [String.ofList ('-' :: letter :: '=' :: text.toList)]
  | letterAttached {argument : Argument} {letter : Char} {text : String}
      (known : argument ∈ verb.options) (valued : argument.isFlag = false)
      (lettered : argument.short? = some letter) (some_text : text.toList ≠ [])
      (no_equals : text.toList.head? ≠ some '=') :
      verb.Spells argument text [String.ofList ('-' :: letter :: text.toList)]
  | letterSeparate {argument : Argument} {letter : Char} {text : String}
      (known : argument ∈ verb.options) (valued : argument.isFlag = false)
      (lettered : argument.short? = some letter) (plain : LooksPlain text) :
      verb.Spells argument text [String.ofList ['-', letter], text]
  | positional {argument : Argument} {text : String} (placed : argument ∈ verb.positions)
      (plain : LooksPlain text) : verb.Spells argument text [text]

namespace Verb

variable {verb : Verb} {argument : Argument}

/-! ### Names and letters -/

theorem long?_of_mem {name : String} (known : argument ∈ verb.options)
    (named : argument.long? = some name) : verb.long? name = some argument := by
  have table : ∀ argument ∈ verb.options, ∀ name ∈ argument.long?,
      verb.long? name = some argument := by
    cases verb <;> decide
  exact table argument known name named

theorem short?_of_mem {letter : Char} (known : argument ∈ verb.options)
    (lettered : argument.short? = some letter) : verb.short? letter = some argument := by
  have table : ∀ argument ∈ verb.options,
      argument.short?.all fun letter => verb.short? letter = some argument := by
    cases verb <;> decide
  have entry := table argument known
  rw [lettered] at entry
  exact of_decide_eq_true entry

/-- Every word that is read as a verb looks like one. -/
theorem looksPlain_word (verb : Verb) : LooksPlain verb.word := by
  rw [LooksPlain]
  cases verb <;> decide

theorem successor?_of_option {word : String} (option : ¬LooksPlain word) :
    verb.successor? word = none := by
  rw [successor?, List.find?_eq_none]
  intro successor _ same
  rw [beq_iff_eq] at same
  subst same
  exact option successor.looksPlain_word

theorem successor?_of_mem {successor : Verb} (follows : successor ∈ verb.successors) :
    verb.successor? successor.word = some successor := by
  have table : ∀ successor ∈ verb.successors, verb.successor? successor.word = some successor := by
    cases verb <;> decide
  exact table successor follows

/-- A verb with positional values has no verb behind it. -/
theorem successors_of_position (placed : argument ∈ verb.positions) : verb.successors = [] := by
  cases verb <;> first | rfl | cases placed

theorem positions_of_mem (placed : argument ∈ verb.positions) : verb.positions = [argument] := by
  have table : ∀ argument ∈ verb.positions, verb.positions = [argument] := by
    cases verb <;> decide
  exact table argument placed

/-- No positional value is given more than once. -/
theorem once_of_position (placed : argument ∈ verb.positions) :
    argument.isRepeatable = false := by
  have table : ∀ argument ∈ verb.positions, argument.isRepeatable = false := by
    cases verb <;> decide
  exact table argument placed

theorem not_position_of_option (known : argument ∈ verb.options) :
    argument ∉ verb.positions := by
  have table : ∀ argument ∈ verb.options, argument ∉ verb.positions := by
    cases verb <;> decide
  exact table argument known

end Verb

namespace Argument

variable {argument : Argument}

theorem long?_spec {name : String} (named : argument.long? = some name) :
    name.toList ≠ [] ∧ '=' ∉ name.toList := by
  have table : ∀ name ∈ argument.long?, name.toList ≠ [] ∧ '=' ∉ name.toList := by
    cases argument <;> decide
  exact table name named

theorem short?_ne_dash {letter : Char} (lettered : argument.short? = some letter) :
    letter ≠ '-' := by
  have table : argument.short?.all fun letter => letter ≠ '-' := by
    cases argument <;> decide
  rw [lettered] at table
  exact of_decide_eq_true table

end Argument

/-! ### Shapes of words -/

namespace WordShape

theorem of_dashes {word : String} {chars : List Char} (parts : word.toList = '-' :: '-' :: chars)
    (some_char : chars ≠ []) :
    WordShape.of word =
      match Text.splitFirst? ['='] chars with
      | some (name, value) => .long (String.ofList name) (some (String.ofList value))
      | none => .long (String.ofList chars) none := by
  rcases List.exists_cons_of_ne_nil some_char with ⟨first, rest, rfl⟩
  rw [WordShape.of, parts]
  rfl

theorem of_long {name : String} (some_name : name.toList ≠ []) (no_equals : '=' ∉ name.toList) :
    WordShape.of ("--" ++ name) = .long name none := by
  have not_split : Text.splitFirst? ['='] name.toList = none := by
    rw [← Option.not_isSome_iff_eq_none, ← Text.containsWord, Text.containsWord_iff,
      List.singleton_infix_iff]
    exact no_equals
  rw [of_dashes String.toList_append some_name, not_split]
  dsimp only
  rw [String.ofList_toList]

theorem of_long_value {name : String} (no_equals : '=' ∉ name.toList) (text : String) :
    WordShape.of ("--" ++ name ++ "=" ++ text) = .long name (some text) := by
  have parts : ("--" ++ name ++ "=" ++ text).toList =
      '-' :: '-' :: (name.toList ++ (['='] ++ text.toList)) := by
    simp
  have split : Text.splitFirst? ['='] (name.toList ++ (['='] ++ text.toList)) =
      some (name.toList, text.toList) := by
    refine splitFirst?_append ?_ text.toList
    rw [List.dropLast_singleton, List.append_nil, List.singleton_infix_iff]
    exact no_equals
  rw [of_dashes parts (by simp), split]
  dsimp only
  rw [String.ofList_toList, String.ofList_toList]

theorem of_short {letter : Char} (no_dash : letter ≠ '-') (letters : List Char) :
    WordShape.of (String.ofList ('-' :: letter :: letters)) = .short (letter :: letters) := by
  rw [WordShape.of, String.toList_ofList]
  simp [no_dash]

theorem of_plain {word : String} (plain : LooksPlain word) : WordShape.of word = .plain := by
  rw [LooksPlain] at plain
  rw [WordShape.of]
  split
  · next chars => simp [chars] at plain
  · next chars => simp [chars] at plain
  · next chars => simp [chars] at plain
  · rfl

end WordShape

/-! ### Reading the words -/

namespace ArgumentState

variable {state settled next : ArgumentState} {argument : Argument} {text word : String}

theorem readVerb_of_option (option : ¬LooksPlain word) : state.readVerb word = .other := by
  have not_help : word ≠ "help" := by
    rintro rfl
    exact option (by rw [LooksPlain]; decide)
  rw [readVerb, Verb.successor?_of_option option]
  simp [not_help]

theorem readVerb_of_awaitsValue (awaits : state.awaitsValue = true) :
    state.readVerb word = .other := by
  simp [readVerb, awaits]

theorem readVerb_of_position (placed : argument ∈ state.verb.positions) :
    state.readVerb word = .other := by
  have none_after := Verb.successors_of_position placed
  simp [readVerb, Verb.successor?, Verb.isIncomplete, none_after]

theorem readVerb_of_separated (separated : state.separated = true) :
    state.readVerb word = .other := by
  simp [readVerb, separated]

theorem readVerb_of_successor {successor : Verb} (follows : successor ∈ state.verb.successors)
    (unseparated : state.separated = false) (awaits_none : state.awaitsValue = false) :
    state.readVerb successor.word = .verb successor := by
  simp [readVerb, unseparated, awaits_none, Verb.successor?_of_mem follows]

theorem readArgumentsFreely_cons (other : state.readVerb word = .other)
    (read : state.readWord word = .ok next) (rest : List String) :
    readArgumentsFreely state (word :: rest) = readArgumentsFreely next rest := by
  rw [readArgumentsFreely, other]
  dsimp only
  rw [read]
  rfl

/-! ### Each way of writing an argument -/

theorem readWord_long {name : String} {value : Option String}
    (unseparated : state.separated = false) (shape : WordShape.of word = .long name value) :
    state.readWord word = state.readLong name value := by
  simp [readWord, unseparated, shape]

theorem readWord_short {letters : List Char} (unseparated : state.separated = false)
    (shape : WordShape.of word = .short letters) :
    state.readWord word = state.readShort letters := by
  simp [readWord, unseparated, shape]

theorem readWord_plain (unseparated : state.separated = false)
    (awaits_none : state.awaitsValue = false) (shape : WordShape.of word = .plain) :
    state.readWord word = state.readPositional word := by
  have no_wait : ∀ argument, state.pending ≠ some (argument, none) := by
    intro argument pending
    rw [awaitsValue, pending] at awaits_none
    cases awaits_none
  rw [readWord, if_neg (by simp [unseparated]), shape]
  dsimp only
  split
  · next pending => exact absurd pending (no_wait _)
  · rfl

section Words

variable (known : argument ∈ state.verb.options)

include known

theorem readLong_flag {name : String} (named : argument.long? = some name)
    (is_flag : argument.isFlag = true) :
    state.readLong name none = state.acceptNow argument "" := by
  simp only [readLong, Verb.long?_of_mem known named, is_flag]

theorem readLong_value {name : String} (named : argument.long? = some name)
    (valued : argument.isFlag = false) (text : String) :
    state.readLong name (some text) = state.acceptNow argument text := by
  simp only [readLong, Verb.long?_of_mem known named, valued]

theorem readLong_await {name : String} (named : argument.long? = some name)
    (valued : argument.isFlag = false) :
    state.readLong name none = state.await argument none := by
  simp only [readLong, Verb.long?_of_mem known named, valued]

theorem readShort_flag {letter : Char} (lettered : argument.short? = some letter)
    (is_flag : argument.isFlag = true) :
    state.readShort [letter] = state.acceptNow argument "" := by
  simp only [readShort, Verb.short?_of_mem known lettered, is_flag]
  cases state.acceptNow argument "" <;> rfl

theorem readShort_await {letter : Char} (lettered : argument.short? = some letter)
    (valued : argument.isFlag = false) : state.readShort [letter] = state.await argument none := by
  simp [readShort, Verb.short?_of_mem known lettered, valued]

theorem readShort_equals {letter : Char} (lettered : argument.short? = some letter)
    (valued : argument.isFlag = false) (value : List Char) :
    state.readShort (letter :: '=' :: value) = state.acceptNow argument (String.ofList value) := by
  simp [readShort, Verb.short?_of_mem known lettered, valued]

theorem readShort_attached {letter : Char} (lettered : argument.short? = some letter)
    (valued : argument.isFlag = false) {value : List Char} (some_value : value ≠ [])
    (no_equals : value.head? ≠ some '=') :
    state.readShort (letter :: value) = state.acceptNow argument (String.ofList value) := by
  rcases List.exists_cons_of_ne_nil some_value with ⟨first, rest, rfl⟩
  have first_ne : first ≠ '=' := by simpa using no_equals
  simp [readShort, Verb.short?_of_mem known lettered, valued, first_ne]

end Words

/-- Reading words leads from a state to one in which, once its pending argument is in, everything
that was read is. -/
def ReadsTo (state : ArgumentState) (words : List String) (next : ArgumentState) : Prop :=
  ∃ later, later.settle = .ok next ∧
    ∀ rest, readArgumentsFreely state (words ++ rest) = readArgumentsFreely later rest

variable (settles : state.Settles settled)

include settles

/-- An option whose value comes with it is taken in at once. -/
theorem readsTo_now (option : ¬LooksPlain word)
    (read : state.readWord word = state.acceptNow argument text)
    (accepted : settled.accept argument text = .ok next) : state.ReadsTo [word] next := by
  rw [acceptNow_eq settles, accepted] at read
  refine ⟨next, settles.of_accept accepted, ?_⟩
  exact readArgumentsFreely_cons (readVerb_of_option option) read

/-- An option whose value comes in the next word waits for it. -/
theorem readsTo_next (unseparated : state.separated = false) (option : ¬LooksPlain word)
    (plain : LooksPlain text) (read : state.readWord word = state.await argument none)
    (accepted : settled.accept argument text = .ok next) : state.ReadsTo [word, text] next := by
  rw [await_eq settles] at read
  refine ⟨{ settled with pending := some (argument, some text) }, ?_, fun rest => ?_⟩
  · have cleared : { settled with pending := none } = settled := by rw [← settles.pending]
    rw [settle, ← accepted, ← cleared]
  · rw [List.cons_append, readArgumentsFreely_cons (readVerb_of_option option) read]
    refine readArgumentsFreely_cons (readVerb_of_awaitsValue rfl) ?_ rest
    have unseparated : settled.separated = false := by rw [settles.separated, unseparated]
    simp [readWord, unseparated, WordShape.of_plain plain]

/-- A positional value waits for what comes after it. -/
theorem readsTo_position (other : state.readVerb text = .other)
    (read : state.readWord text = state.readPositional text) {free : List Argument}
    (next_free : state.free = argument :: free)
    (accepted : { settled with free := free }.accept argument text = .ok next) :
    state.ReadsTo [text] next := by
  have positioned := settles.with_positions free state.separated
  rw [readPositional, next_free] at read
  dsimp only at read
  rw [await_eq positioned] at read
  refine ⟨_, ?_, readArgumentsFreely_cons other read⟩
  have cleared : { settled with free := free, separated := state.separated, pending := none } =
      { settled with free := free, separated := state.separated } := by rw [← settles.pending]
  rw [settles.separated] at accepted
  rw [settle, ← accepted, ← cleared]

/-- Whichever way an argument is written, its value is in once what comes after it is read. -/
theorem readsTo_of_spells {words : List String} (unseparated : settled.separated = false)
    (spells : settled.verb.Spells argument text words)
    (within : settled.free.Sublist settled.verb.positions)
    (is_free : argument ∈ settled.verb.positions → argument ∈ settled.free)
    (accepted : { settled with free := settled.free.filter (· ≠ argument) }.accept argument text =
      .ok next) :
    state.ReadsTo words next := by
  rw [settles.separated] at unseparated
  rw [settles.verb] at spells within is_free
  have option_frees (known : argument ∈ state.verb.options) :
      { settled with free := settled.free.filter (· ≠ argument) } = settled := by
    have not_free : argument ∉ settled.free :=
      fun free => Verb.not_position_of_option known (within.subset free)
    have kept : settled.free.filter (· ≠ argument) = settled.free := by
      rw [List.filter_eq_self]
      intro other other_mem
      exact decide_eq_true fun same => not_free (same ▸ other_mem)
    rw [kept]
  cases spells with
  | flag known is_flag named =>
      rcases Argument.long?_spec named with ⟨some_name, no_equals⟩
      rw [option_frees known] at accepted
      refine readsTo_now settles (by simp [LooksPlain]) ?_ accepted
      rw [readWord_long unseparated (WordShape.of_long some_name no_equals),
        readLong_flag known named is_flag]
  | letterFlag known is_flag lettered =>
      rw [option_frees known] at accepted
      refine readsTo_now settles (by simp [LooksPlain]) ?_ accepted
      rw [readWord_short unseparated (WordShape.of_short (Argument.short?_ne_dash lettered) []),
        readShort_flag known lettered is_flag]
  | attached known valued named =>
      rcases Argument.long?_spec named with ⟨_, no_equals⟩
      rw [option_frees known] at accepted
      refine readsTo_now settles (by simp [LooksPlain]) ?_ accepted
      rw [readWord_long unseparated (WordShape.of_long_value no_equals text),
        readLong_value known named valued]
  | separate known valued named plain =>
      rcases Argument.long?_spec named with ⟨some_name, no_equals⟩
      rw [option_frees known] at accepted
      refine readsTo_next settles unseparated (by simp [LooksPlain]) plain ?_ accepted
      rw [readWord_long unseparated (WordShape.of_long some_name no_equals),
        readLong_await known named valued]
  | letterEquals known valued lettered =>
      rw [option_frees known] at accepted
      refine readsTo_now settles (by simp [LooksPlain]) ?_ accepted
      rw [readWord_short unseparated (WordShape.of_short (Argument.short?_ne_dash lettered) _),
        readShort_equals known lettered valued, String.ofList_toList]
  | letterAttached known valued lettered some_text no_equals =>
      rw [option_frees known] at accepted
      refine readsTo_now settles (by simp [LooksPlain]) ?_ accepted
      rw [readWord_short unseparated (WordShape.of_short (Argument.short?_ne_dash lettered) _),
        readShort_attached known lettered valued some_text no_equals, String.ofList_toList]
  | letterSeparate known valued lettered plain =>
      rw [option_frees known] at accepted
      refine readsTo_next settles unseparated (by simp [LooksPlain]) plain ?_ accepted
      rw [readWord_short unseparated (WordShape.of_short (Argument.short?_ne_dash lettered) []),
        readShort_await known lettered valued]
  | positional placed plain =>
      -- A verb has one position at most, so the value that is free is this one.
      have free_eq : settled.free = [argument] := by
        have free := is_free placed
        rw [Verb.positions_of_mem placed] at within
        rcases List.sublist_singleton.mp within with nothing | one
        · rw [nothing] at free
          cases free
        · exact one
      rw [free_eq] at accepted
      simp only [ne_eq, decide_not, List.filter_cons, decide_true, Bool.not_true] at accepted
      rw [settles.free] at free_eq
      refine readsTo_position settles (readVerb_of_position placed) ?_ free_eq accepted
      exact readWord_plain unseparated settles.awaitsValue (WordShape.of_plain plain)

/-- Behind a separator a positional value may look like an option. -/
theorem readsTo_behind (unseparated : settled.separated = false)
    (free_eq : settled.free = [argument])
    (accepted : { settled with free := [], separated := true }.accept argument text = .ok next) :
    state.ReadsTo ["--", text] next := by
  rw [settles.separated] at unseparated
  rw [settles.free] at free_eq
  have read : state.readWord "--" = .ok { state with separated := true } := by
    rw [readWord, if_neg (by simp [unseparated])]
    rfl
  rcases readsTo_position (settles.with_positions state.free true) (readVerb_of_separated rfl)
    rfl free_eq accepted with ⟨later, later_settles, later_reads⟩
  refine ⟨later, later_settles, fun rest => ?_⟩
  rw [← later_reads]
  exact readArgumentsFreely_cons (readVerb_of_option (by simp [LooksPlain])) read _

end ArgumentState

end TapeAdmin
