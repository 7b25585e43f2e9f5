import TapeAdmin.Proofs.Console.CommandLine

/-!
# Reading what was written

One command line for every request, with each value attached to the long name of its option and
positional values behind a separator, and what becomes of it and of all other command lines that are
written for the request.
-/

namespace TapeAdmin

namespace ArgumentValues

/-- The texts by which the value of an argument is given, with numbers in decimal digits, and
attributes as they are shown. -/
def texts (values : ArgumentValues) : Argument → List String
  | .help | .version => []
  | .verbose => if values.verbose then [""] else []
  | .logJson => if values.logJson then [""] else []
  | .configuration => (values.configuration.map FilePath.text).toList
  | .device => (values.target.device.map FilePath.text).toList
  | .drive => (values.target.drive.map (toString : Nat → String)).toList
  | .nonRewinding => if values.target.nonRewinding then [""] else []
  | .mode => values.target.mode.toList
  | .detailed => if values.detailed then [""] else []
  | .json => if values.json then [""] else []
  | .mountOption => values.mountOptions
  | .label => values.label.toList
  | .force => if values.force then [""] else []
  | .blockSize => (values.blockSize.map (toString : Nat → String)).toList
  | .assumeYes => if values.assumeYes then [""] else []
  | .allowWrite => if values.allowWrite then [""] else []
  | .output => (values.output.map FilePath.text).toList
  | .attributeId => (values.attributeId.map Attribute.idText).toList
  | .partition => if values.partition = 0 then [] else [toString values.partition.toNat]
  | .attributeValue => values.attributeValue.toList
  | .mountPoint => (values.mountPoint.map FilePath.text).toList
  | .suite => (values.suite.map SuiteKind.word).toList
  | .count => (values.count.map (toString : Nat → String)).toList

theorem isNumberText_toString (number : Nat) : IsNumberText number (toString number) := by
  rw [IsNumberText, Nat.toString_eq_ofList_toDigits, String.toList_ofList]
  exact Text.denotes_toDigits (by decide) (by decide) number

theorem spelling_idText (id : UInt16) :
    Attribute.NumberSpelling (Attribute.idText id).toList id.toNat := by
  have parts : (Attribute.idText id).toList =
      '0' :: 'x' :: ([] ++ (Attribute.idDigits id).toList) := by
    simp [Attribute.idText]
  rw [parts]
  exact .hexadecimal (.inl rfl) (.inl rfl) (Attribute.denotes_idDigits id)

theorem writtenOnce_map {α : Type} {spells : α → String → Prop} {text : α → String}
    (spelled : ∀ value, spells value (text value)) (value : Option α) :
    WrittenOnce spells value (value.map text).toList := by
  cases value with
  | some held => exact ⟨text held, rfl, spelled held⟩
  | none => rfl

theorem writtenOnce_text {α : Type} (text : α → String) (value : Option α) :
    WrittenOnce (fun held written => written = text held) value (value.map text).toList := by
  apply writtenOnce_map
  exact fun _ => rfl

theorem writtenOnce_self (value : Option String) :
    WrittenOnce (fun held text => text = held) value value.toList := by
  cases value with
  | some held => exact ⟨held, rfl, rfl⟩
  | none => rfl

theorem isWritten_texts (values : ArgumentValues) (argument : Argument) :
    values.IsWritten argument (values.texts argument) := by
  cases argument with
  | help | version => rfl
  | verbose | logJson | nonRewinding | detailed | json | force | assumeYes | allowWrite
  | mountOption => rfl
  | mode | label | attributeValue => exact writtenOnce_self _
  | configuration | device | output | mountPoint => exact writtenOnce_text FilePath.text _
  | suite => exact writtenOnce_text SuiteKind.word _
  | drive | blockSize | count => exact writtenOnce_map isNumberText_toString _
  | attributeId => exact writtenOnce_map spelling_idText _
  | partition =>
      rw [IsWritten, texts]
      split
      · next first => exact .inr ⟨rfl, first⟩
      · exact .inl ⟨_, rfl, isNumberText_toString _⟩

end ArgumentValues

/-- The word for an option with a long name. -/
def Argument.longWord (argument : Argument) (text : String) : String :=
  let name := "--" ++ argument.long?.getD ""
  if argument.isFlag then name else name ++ "=" ++ text

namespace Clause

/-- The options of a verb that have a value, each with its text. -/
def told (clause : Clause) : List ArgumentText :=
  clause.verb.options.flatMap fun argument =>
    (clause.values.texts argument).map fun text => ⟨argument, text⟩

/-- The words for a positional value: a number stands alone, and anything else behind a separator.
-/
def positionWords (argument : Argument) (text : String) : List String :=
  if argument = .count then [text] else ["--", text]

/-- The words for the arguments of a verb. -/
def words (clause : Clause) : List String :=
  (clause.told.map fun one => one.argument.longWord one.text) ++
    clause.verb.positions.flatMap fun argument =>
      (clause.values.texts argument).flatMap (positionWords argument)

/-- The words behind the first of some verbs. -/
def chainWords : List Clause → List String
  | [] => []
  | [clause] => clause.words
  | clause :: next :: rest => clause.words ++ next.verb.word :: chainWords (next :: rest)

/-- A clause of which all values belong to arguments of its verb. -/
def Proper (clause : Clause) : Prop :=
  ∀ argument ∉ clause.verb.arguments, clause.values.texts argument = []

/-- Of the arguments that are told one after another each is told by its own texts. -/
theorem texts_flatMap {argument : Argument} {arguments : List Argument}
    (nodup : arguments.Nodup) (texts : Argument → List String) :
    ArgumentText.texts argument
      (arguments.flatMap fun other => (texts other).map fun text => ⟨other, text⟩) =
        if argument ∈ arguments then texts argument else [] := by
  have texts_map (other : Argument) : ArgumentText.texts argument
      ((texts other).map fun text => ⟨other, text⟩) =
        if other = argument then texts other else [] := by
    by_cases same : other = argument
    · subst same
      simp [ArgumentText.texts, List.filter_map, Function.comp_def]
    · simp [ArgumentText.texts, same]
  induction arguments with
  | nil => rfl
  | cons first rest ih =>
      have first_fresh := (List.nodup_cons.mp nodup).1
      rw [List.flatMap_cons, ArgumentText.texts_append, ih (List.nodup_cons.mp nodup).2, texts_map]
      by_cases same : first = argument
      · subst same
        simp [first_fresh]
      · simp [same, Ne.symm same]

end Clause

theorem TapeOperation.proper_clause (operation : TapeOperation) : operation.clause.Proper := by
  intro argument other
  cases operation <;> dsimp only [clause] at other <;>
    cases argument <;> first | rfl | exact absurd (by decide) other

theorem AttributeRequest.proper_clause (action : AttributeRequest) : action.clause.Proper := by
  intro argument other
  cases action <;> dsimp only [clause] at other <;>
    cases argument <;> first | rfl | exact absurd (by decide) other

theorem Request.proper_clauses (request : Request) :
    ∀ clause ∈ request.clauses, clause.Proper := by
  intro clause clause_mem argument other
  cases request with
  | operate target operation =>
      rcases List.mem_cons.mp clause_mem with rfl | later
      · dsimp only at other
        cases argument <;> first | rfl | exact absurd (by decide) other
      · cases List.mem_singleton.mp later
        exact operation.proper_clause argument other
  | attributes target action =>
      rcases List.mem_cons.mp clause_mem with rfl | later
      · dsimp only at other
        cases argument <;> first | rfl | exact absurd (by decide) other
      · cases List.mem_singleton.mp later
        exact action.proper_clause argument other
  | _ =>
      cases List.mem_singleton.mp clause_mem
      dsimp only at other
      cases argument <;> first | rfl | exact absurd (by decide) other

/-- No verb but that of the program has the options for every request. -/
theorem Request.map_own_clauses (request : Request) :
    request.clauses.map Clause.own = request.clauses := by
  cases request with
  | operate target operation => cases operation <;> rfl
  | attributes target action => cases action <;> rfl
  | _ => rfl

theorem looksPlain_of_isNumberText {number : Nat} {text : String}
    (digits : IsNumberText number text) : LooksPlain text := by
  intro minus
  rcases List.head?_eq_some_iff.mp minus with ⟨rest, parts⟩
  have digit := digits.isHexDigit (by decide) '-' (by simp [parts])
  exact absurd digit (by decide)

theorem ArgumentText.Spelled.append {verb : Verb} {told later : List ArgumentText}
    {words rest : List String} (spelled : ArgumentText.Spelled verb told words)
    (behind : ArgumentText.Spelled verb later rest) :
    ArgumentText.Spelled verb (told ++ later) (words ++ rest) := by
  induction spelled with
  | nil => exact behind
  | cons here _ ih =>
      rw [List.cons_append, List.append_assoc]
      exact .cons here ih

namespace Clause

variable {clause : Clause}

/-- An option is spelled by its long name, with its value attached. -/
theorem spells_longWord {argument : Argument} {text : String}
    (known : argument ∈ clause.verb.options) (text_mem : text ∈ clause.values.texts argument) :
    clause.verb.Spells argument text [argument.longWord text] := by
  have named : ∃ name, argument.long? = some name := by
    have table : ∀ argument ∈ clause.verb.options, argument.long?.isSome = true := by
      cases clause.verb <;> decide
    exact Option.isSome_iff_exists.mp (table argument known)
  rcases named with ⟨name, name_eq⟩
  cases is_flag : argument.isFlag with
  | true =>
      have flag_text : text = "" := by
        cases argument <;> simp_all [ArgumentValues.texts, Argument.isFlag]
      subst flag_text
      have word : argument.longWord "" = "--" ++ name := by
        simp [Argument.longWord, name_eq, is_flag]
      rw [word]
      exact .flag known is_flag name_eq
  | false =>
      have word : argument.longWord text = "--" ++ name ++ "=" ++ text := by
        simp [Argument.longWord, name_eq, is_flag]
      rw [word]
      exact .attached known is_flag name_eq

theorem spelled_told (clause : Clause) :
    ArgumentText.Spelled clause.verb clause.told
      (clause.told.map fun one => one.argument.longWord one.text) := by
  have spelled (some_told : List ArgumentText) (own : ∀ one ∈ some_told,
      clause.verb.Spells one.argument one.text [one.argument.longWord one.text]) :
      ArgumentText.Spelled clause.verb some_told
        (some_told.map fun one => one.argument.longWord one.text) := by
    induction some_told with
    | nil => exact .nil
    | cons one rest ih =>
        exact .cons (own one List.mem_cons_self) (ih fun other other_mem =>
          own other (List.mem_cons_of_mem _ other_mem))
  apply spelled
  intro one one_mem
  rcases List.mem_flatMap.mp one_mem with ⟨argument, known, told⟩
  rcases List.mem_map.mp told with ⟨text, text_mem, rfl⟩
  exact spells_longWord known text_mem

/-- The options and the positional values of a verb tell all its values. -/
theorem tells_arguments (proper : clause.Proper) :
    clause.Tells (clause.told ++ clause.verb.positions.flatMap fun argument =>
      (clause.values.texts argument).map fun text => ⟨argument, text⟩) := by
  have nodup : clause.verb.arguments.Nodup := by
    cases clause.verb <;> decide
  intro argument
  rw [told, ← List.flatMap_append, ← Verb.arguments, texts_flatMap nodup]
  have is_written := clause.values.isWritten_texts argument
  split
  · exact is_written
  · next other => rwa [proper argument other] at is_written

/-- The words for a verb are a writing of it. -/
theorem written_words (proper : clause.Proper) : clause.Written clause.words := by
  have tells := tells_arguments proper
  rw [words]
  rcases positions : clause.verb.positions with _ | ⟨argument, others⟩
  · rw [positions, List.flatMap_nil, List.append_nil] at tells
    rw [List.flatMap_nil, List.append_nil]
    exact .plain tells clause.spelled_told
  · have placed : argument ∈ clause.verb.positions := by simp [positions]
    have one_position := Verb.positions_of_mem placed
    have is_written := clause.values.isWritten_texts argument
    have length_le :=
      ArgumentValues.length_le_of_isWritten (Verb.once_of_position placed) is_written
    rw [one_position, List.flatMap_singleton] at tells
    rw [← positions, one_position, List.flatMap_singleton]
    rcases texts_eq : clause.values.texts argument with _ | ⟨text, _ | ⟨next, more⟩⟩
    · rw [texts_eq, List.map_nil, List.append_nil] at tells
      rw [List.flatMap_nil, List.append_nil]
      exact .plain tells clause.spelled_told
    · rw [texts_eq, List.map_singleton] at tells
      rw [List.flatMap_singleton, positionWords]
      split
      · next is_count =>
          subst is_count
          rw [texts_eq] at is_written
          have once : WrittenOnce IsNumberText clause.values.count ([] ++ [text]) := is_written
          rcases ArgumentValues.exists_of_writtenOnce once with ⟨number, _, digits⟩
          have here : ArgumentText.Spelled clause.verb [⟨.count, text⟩] ([text] ++ []) :=
            .cons (.positional placed (looksPlain_of_isNumberText digits)) .nil
          exact .plain tells (clause.spelled_told.append here)
      · exact .behind placed tells clause.spelled_told
    · rw [texts_eq] at length_le
      simp at length_le

/-- The words for a chain of verbs are a writing of it. -/
theorem chainWritten_words {clauses : List Clause} (some_clause : clauses ≠ [])
    (proper : ∀ clause ∈ clauses, clause.Proper)
    (linked : Verb.Linked (clauses.map Clause.verb)) :
    ChainWritten clauses (chainWords clauses) := by
  induction clauses with
  | nil => exact absurd rfl some_clause
  | cons clause rest ih =>
      have clause_proper := proper clause List.mem_cons_self
      cases rest with
      | nil => exact .last (written_words clause_proper)
      | cons next rest =>
          have follows := ih (List.cons_ne_nil _ _)
            (fun other other_mem => proper other (List.mem_cons_of_mem _ other_mem)) linked.2
          have no_position : clause.verb.positions = [] := by
            rw [List.eq_nil_iff_forall_not_mem]
            intro argument placed
            have next_mem := linked.1
            rw [Verb.successors_of_position placed] at next_mem
            cases next_mem
          have tells := tells_arguments clause_proper
          rw [no_position, List.flatMap_nil, List.append_nil] at tells
          have words_eq : clause.words =
              clause.told.map fun one => one.argument.longWord one.text := by
            rw [words, no_position, List.flatMap_nil, List.append_nil]
          rw [chainWords, words_eq]
          exact .next tells clause.spelled_told follows

end Clause

namespace Invocation

variable (invocation : Invocation)

/-- The verb of the program, with the options for every request. -/
def programClause : Clause where
  verb := .program
  values := {
    verbose := invocation.verbose
    logJson := invocation.logJson
    configuration := invocation.configuration }

/-- The command line for a request, without the name of the program. -/
def words : List String :=
  Clause.chainWords (invocation.programClause :: invocation.request.clauses)

/-- The options for every request stand behind the name of the program, and nowhere else. -/
theorem isChain_programClause :
    invocation.IsChain (invocation.programClause :: invocation.request.clauses) := by
  have bare := invocation.request.map_own_clauses
  have never (is_set : ArgumentValues → Bool) (never_own : ∀ clause : Clause,
      is_set clause.own.values = false) :
      invocation.request.clauses.countP (is_set ·.values) = 0 := by
    rw [← bare, List.countP_map, List.countP_eq_zero]
    intro clause _
    simp [never_own]
  constructor
  · rw [List.map_cons, bare]
    rfl
  · rw [List.countP_cons, never ArgumentValues.verbose fun _ => rfl]
    cases verbose : invocation.verbose <;> simp [programClause, verbose]
  · rw [List.countP_cons, never ArgumentValues.logJson fun _ => rfl]
    cases logJson : invocation.logJson <;> simp [programClause, logJson]
  · have none_later :
        invocation.request.clauses.filterMap (·.values.configuration) = [] := by
      rw [← bare, List.filterMap_map, List.filterMap_eq_nil_iff]
      exact fun clause _ => rfl
    rw [List.filterMap_cons, none_later]
    cases configuration : invocation.configuration <;> simp [programClause, configuration]

/-- The command line for a request is a writing of it. -/
theorem written_words : invocation.Written invocation.words := by
  have proper : ∀ clause ∈ invocation.programClause :: invocation.request.clauses,
      clause.Proper := by
    intro clause clause_mem
    rcases List.mem_cons.mp clause_mem with rfl | later
    · intro argument other
      dsimp only [programClause] at other
      cases argument <;> first | rfl | exact absurd (by decide) other
    · exact invocation.request.proper_clauses clause later
  exact ⟨_, invocation.isChain_programClause, Clause.chainWritten_words (List.cons_ne_nil _ _)
    proper invocation.request.linked_clauses⟩

/--
Every request has a command line. A command line that is written for a request whose values can be
given is read as that request, whatever the order of the options is and wherever the options for
every request stand, if its target is a device or one to be chosen but not both, and is refused as a
conflict otherwise. Any other command line, too, that would be accepted but for a device beside a
choice is refused as a conflict, so that no request that is accepted has both in its target.
-/
theorem read_written :
    (∀ invocation : Invocation, invocation.Written invocation.words) ∧
    (∀ (invocation : Invocation) (name : String) (words : List String), invocation.Valid →
      invocation.Written words →
      (invocation.request.Exclusive → read (name :: words) = .ok invocation) ∧
      (¬invocation.request.Exclusive → read (name :: words) = .error .conflict)) ∧
    (∀ (commandLine : List String) (invocation : Invocation),
      readFreely commandLine = .ok invocation → ¬invocation.request.Exclusive →
      read commandLine = .error .conflict) ∧
    ∀ (commandLine : List String) (invocation : Invocation),
      read commandLine = .ok invocation → invocation.request.Exclusive := by
  refine ⟨written_words, ?_, ?_, ?_⟩
  · intro invocation name words valid written
    exact read_of_readFreely (readFreely_of_written valid written name)
  · intro commandLine invocation freely banned
    exact (read_of_readFreely freely).2 banned
  · intro commandLine invocation accepted
    exact (readFreely_of_read accepted).2

/-- The options for every request may stand behind any of the verbs. -/
example :
    let invocation : Invocation := { request := .operate {} (.spaceForward 3), verbose := true }
    invocation.words = ["--verbose", "mt", "fsf", "3"] ∧
    read ["ltfsadm", "mt", "fsf", "-v", "3"] = .ok invocation := by
  constructor <;> rfl

/-- Values that are empty, look like options or hold equals signs come back from the command line,
and a device beside a mode is refused. -/
theorem read_written_mount :
    let target : Target := { nonRewinding := true, mode := some "l" }
    let invocation : Invocation :=
      { request := .mount target (some ⟨"-tape"⟩) ["", "-o=b"], verbose := true,
        configuration := some ⟨"/a=b"⟩ }
    read ["ltfsadm", "--verbose", "--config=/a=b", "mount", "--non-rewinding", "--mode=l",
      "--option=", "--option=-o=b", "--", "-tape"] = .ok invocation ∧
    read ["ltfsadm", "info", "-d", "/dev/nst0", "-ml"] = .error .conflict := by
  intro target invocation
  rcases read_written with ⟨written, reads, conflicts, _⟩
  have exclusive : invocation.request.Exclusive := by
    intro aim aim_eq some_device
    cases aim_eq
    exact absurd rfl some_device
  have valid : invocation.Valid := by
    constructor
    · intro path given
      cases given
      decide
    · intro clause clause_mem
      cases List.mem_singleton.mp clause_mem
      constructor <;> intro value given <;> cases given <;> decide
  let held : Invocation := { request := .info { device := some ⟨"/dev/nst0"⟩, mode := some "l" } }
  have both : ¬held.request.Exclusive := by
    intro exclusive
    cases (exclusive _ rfl nofun).2.2
  constructor
  · exact (reads invocation "ltfsadm" _ valid (written invocation)).1 exclusive
  · exact conflicts _ held rfl both

end Invocation

end TapeAdmin
