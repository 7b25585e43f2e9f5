import TapeAdmin.Console.Arguments
import TapeAdmin.Proofs.Cartridge.Identifier

/-!
# The texts of argument values

What the values of a verb's arguments are written as, argument by argument, and how they come in one
by one. Apart from mount options, which keep their order, every argument is given at most once, so
that what has come in is settled by which arguments were given.
-/

namespace TapeAdmin

open Text (Denotes)

/-- A value that is given is written by one text, and one that is not given by none. -/
def WrittenOnce {α : Type} (spells : α → String → Prop) : Option α → List String → Prop
  | some value, texts => ∃ text, texts = [text] ∧ spells value text
  | none, texts => texts = []

/-- A flag is written by the empty text if it is set. -/
def WrittenFlag (is_set : Bool) (texts : List String) : Prop :=
  texts = if is_set then [""] else []

/-- Decimal digits, with any number of zeros in front. -/
def IsNumberText (number : Nat) (text : String) : Prop :=
  Denotes 10 text.toList number

namespace ArgumentValues

/-- The texts by which the value of an argument is given. No request for help is a value, and a
partition need not be given if it is the first one. -/
def IsWritten (values : ArgumentValues) (argument : Argument) (texts : List String) : Prop :=
  match argument with
  | .help | .version => texts = []
  | .verbose => WrittenFlag values.verbose texts
  | .logJson => WrittenFlag values.logJson texts
  | .configuration => WrittenOnce (fun path text => text = path.text) values.configuration texts
  | .device => WrittenOnce (fun path text => text = path.text) values.target.device texts
  | .drive => WrittenOnce IsNumberText values.target.drive texts
  | .nonRewinding => WrittenFlag values.target.nonRewinding texts
  | .mode => WrittenOnce (fun mode text => text = mode) values.target.mode texts
  | .detailed => WrittenFlag values.detailed texts
  | .json => WrittenFlag values.json texts
  | .mountOption => texts = values.mountOptions
  | .label => WrittenOnce (fun label text => text = label) values.label texts
  | .force => WrittenFlag values.force texts
  | .blockSize => WrittenOnce IsNumberText values.blockSize texts
  | .assumeYes => WrittenFlag values.assumeYes texts
  | .allowWrite => WrittenFlag values.allowWrite texts
  | .output => WrittenOnce (fun path text => text = path.text) values.output texts
  | .attributeId => WrittenOnce (fun id text => Attribute.NumberSpelling text.toList id.toNat)
      values.attributeId texts
  | .partition => WrittenOnce IsNumberText (some values.partition.toNat) texts ∨
      texts = [] ∧ values.partition = 0
  | .attributeValue => WrittenOnce (fun value text => text = value) values.attributeValue texts
  | .mountPoint => WrittenOnce (fun path text => text = path.text) values.mountPoint texts
  | .suite => WrittenOnce (fun suite text => text = suite.word) values.suite texts
  | .count => WrittenOnce IsNumberText values.count texts

/-- Values that can be given at all: no path is empty, no number exceeds four bytes, and the mode is
one of those that can be asked for. -/
structure Valid (values : ArgumentValues) : Prop where
  configuration : ∀ path, values.configuration = some path → path.text ≠ ""
  device : ∀ path, values.target.device = some path → path.text ≠ ""
  drive : ∀ number, values.target.drive = some number → number < 2 ^ 32
  mode : ∀ mode, values.target.mode = some mode → mode ∈ ["default", "a", "l", "m"]
  blockSize : ∀ size, values.blockSize = some size → size < 2 ^ 32
  output : ∀ path, values.output = some path → path.text ≠ ""
  mountPoint : ∀ path, values.mountPoint = some path → path.text ≠ ""
  count : ∀ count, values.count = some count → count < 2 ^ 32

/-! ### Reading one text -/

theorem readPath_text {path : FilePath} (some_text : path.text ≠ "") :
    readPath path.text = .ok path := by
  rw [readPath, if_neg (by simpa using some_text)]

theorem readCount_text {limit number : Nat} {text : String} (digits : IsNumberText number text)
    (within : number ≤ limit) : readCount limit text = .ok number := by
  rcases List.exists_cons_of_ne_nil digits.ne_nil with ⟨first, rest, parts⟩
  have first_digit := digits.isHexDigit (by decide) first (by simp [parts])
  have no_plus : first ≠ '+' := by
    rintro rfl
    exact absurd first_digit (by decide)
  have no_minus : first ≠ '-' := by
    rintro rfl
    exact absurd first_digit (by decide)
  have read : Text.ofDigits? 10 text.toList = some number := by
    rw [Text.ofDigits?, if_neg (by simpa using digits.ne_nil)]
    exact (Text.digitsFrom?_eq_some_iff (by decide) digits.ne_nil).mpr digits
  rw [parts] at read
  simp [readCount, parts, no_plus, no_minus, read, within]

theorem readMode_text {mode : String} (known : mode ∈ ["default", "a", "l", "m"]) :
    readMode mode = .ok mode := by
  rw [readMode, if_pos (by simpa [modeWords] using known)]

theorem readSuite_word (suite : SuiteKind) : readSuite suite.word = .ok suite := by
  cases suite <;> decide

/-! ### Values that are partly given -/

/-- What is known of a value: all if its argument was given, and nothing otherwise. -/
def known {α : Type} (given : List Argument) (argument : Argument) (value unknown : α) : α :=
  if argument ∈ given then value else unknown

/-- The values as far as their arguments are given. -/
def upTo (values : ArgumentValues) (given : List Argument) : ArgumentValues where
  verbose := known given .verbose values.verbose false
  logJson := known given .logJson values.logJson false
  configuration := known given .configuration values.configuration none
  target := {
    device := known given .device values.target.device none
    drive := known given .drive values.target.drive none
    nonRewinding := known given .nonRewinding values.target.nonRewinding false
    mode := known given .mode values.target.mode none }
  detailed := known given .detailed values.detailed false
  json := known given .json values.json false
  mountOptions := values.mountOptions.take (given.count .mountOption)
  label := known given .label values.label none
  force := known given .force values.force false
  blockSize := known given .blockSize values.blockSize none
  assumeYes := known given .assumeYes values.assumeYes false
  allowWrite := known given .allowWrite values.allowWrite false
  output := known given .output values.output none
  attributeId := known given .attributeId values.attributeId none
  partition := known given .partition values.partition 0
  attributeValue := known given .attributeValue values.attributeValue none
  mountPoint := known given .mountPoint values.mountPoint none
  suite := known given .suite values.suite none
  count := known given .count values.count none

theorem known_append {α : Type} (given : List Argument) (argument other : Argument)
    (value unknown : α) :
    known (given ++ [other]) argument value unknown =
      if argument = other then value else known given argument value unknown := by
  by_cases same : argument = other
  · simp [known, same]
  · simp [known, same]

theorem upTo_nil (values : ArgumentValues) : values.upTo [] = {} := by
  simp [upTo, known]

variable {values : ArgumentValues} {argument : Argument} {given : List Argument}

theorem exists_of_writtenOnce {α : Type} {spells : α → String → Prop} {value : Option α}
    {before after : List String} {text : String}
    (written : WrittenOnce spells value (before ++ text :: after)) :
    ∃ held, value = some held ∧ spells held text := by
  cases value with
  | none => simp [WrittenOnce] at written
  | some held =>
      rcases written with ⟨other, texts, spelled⟩
      rcases before with _ | ⟨first, before⟩
      · cases texts
        exact ⟨held, rfl, spelled⟩
      · simp at texts

theorem of_writtenFlag {is_set : Bool} {before after : List String} {text : String}
    (written : WrittenFlag is_set (before ++ text :: after)) : is_set = true := by
  cases is_set with
  | true => rfl
  | false => simp [WrittenFlag] at written

theorem take_mountOptions {before after : List String} {text : String}
    (written : before ++ text :: after = values.mountOptions)
    (counted : given.count .mountOption = before.length) :
    values.mountOptions.take (given.count .mountOption + 1) =
      values.mountOptions.take (given.count .mountOption) ++ [text] := by
  rw [← written, counted]
  simp [List.take_append, List.take_of_length_le]

/-- An argument whose value is written by a text comes in with it. -/
theorem store_upTo (valid : values.Valid) {before after : List String} {text : String}
    (written : values.IsWritten argument (before ++ text :: after))
    (counted : given.count argument = before.length) :
    (values.upTo given).store text argument = .ok (values.upTo (given ++ [argument])) := by
  cases argument with
  | help | version => simp [IsWritten] at written
  | verbose | logJson | nonRewinding | detailed | json | force | assumeYes | allowWrite =>
      have is_set := of_writtenFlag written
      simp [store, upTo, known_append, is_set]
  | label | attributeValue =>
      rcases exists_of_writtenOnce written with ⟨held, value_eq, rfl⟩
      simp [store, upTo, known_append, value_eq]
  | configuration =>
      rcases exists_of_writtenOnce written with ⟨path, value_eq, rfl⟩
      rw [store, readPath_text (valid.configuration path value_eq)]
      simp [upTo, known_append, value_eq, bind, Except.bind, pure, Except.pure]
  | device =>
      rcases exists_of_writtenOnce written with ⟨path, value_eq, rfl⟩
      rw [store, readPath_text (valid.device path value_eq)]
      simp [upTo, known_append, value_eq, bind, Except.bind, pure, Except.pure]
  | drive =>
      rcases exists_of_writtenOnce written with ⟨number, value_eq, digits⟩
      have within : number ≤ wordLimit := Nat.le_pred_of_lt (valid.drive number value_eq)
      rw [store, readCount_text digits within]
      simp [upTo, known_append, value_eq, bind, Except.bind, pure, Except.pure]
  | mode =>
      rcases exists_of_writtenOnce written with ⟨mode, value_eq, rfl⟩
      rw [store, readMode_text (valid.mode text value_eq)]
      simp [upTo, known_append, value_eq, bind, Except.bind, pure, Except.pure]
  | mountOption =>
      have more := take_mountOptions written counted
      simp [store, upTo, known_append, more]
  | blockSize =>
      rcases exists_of_writtenOnce written with ⟨size, value_eq, digits⟩
      have within : size ≤ wordLimit := Nat.le_pred_of_lt (valid.blockSize size value_eq)
      rw [store, readCount_text digits within]
      simp [upTo, known_append, value_eq, bind, Except.bind, pure, Except.pure]
  | output =>
      rcases exists_of_writtenOnce written with ⟨path, value_eq, rfl⟩
      rw [store, readPath_text (valid.output path value_eq)]
      simp [upTo, known_append, value_eq, bind, Except.bind, pure, Except.pure]
  | attributeId =>
      rcases exists_of_writtenOnce written with ⟨id, value_eq, spelling⟩
      rw [store, readAttributeId, Attribute.readId_eq_ok_iff.mpr spelling]
      simp [upTo, known_append, value_eq, bind, Except.bind, pure, Except.pure]
  | partition =>
      rcases written with once | none_written
      · rcases exists_of_writtenOnce once with ⟨number, value_eq, digits⟩
        cases value_eq
        have within : values.partition.toNat ≤ 255 := Nat.le_of_lt_succ values.partition.toNat_lt
        rw [store, readCount_text digits within]
        simp [upTo, known_append, bind, Except.bind, pure, Except.pure]
      · simp at none_written
  | mountPoint =>
      rcases exists_of_writtenOnce written with ⟨path, value_eq, rfl⟩
      rw [store, readPath_text (valid.mountPoint path value_eq)]
      simp [upTo, known_append, value_eq, bind, Except.bind, pure, Except.pure]
  | suite =>
      rcases exists_of_writtenOnce written with ⟨suite, value_eq, rfl⟩
      rw [store, readSuite_word]
      simp [upTo, known_append, value_eq, bind, Except.bind, pure, Except.pure]
  | count =>
      rcases exists_of_writtenOnce written with ⟨count, value_eq, digits⟩
      have within : count ≤ wordLimit := Nat.le_pred_of_lt (valid.count count value_eq)
      rw [store, readCount_text digits within]
      simp [upTo, known_append, value_eq, bind, Except.bind, pure, Except.pure]

theorem known_flag {is_set : Bool} (unwritten : argument ∉ given → WrittenFlag is_set []) :
    known given argument is_set false = is_set := by
  rw [known]
  split
  · rfl
  · next fresh =>
      cases is_set with
      | true => cases unwritten fresh
      | false => rfl

theorem known_once {α : Type} {spells : α → String → Prop} {value : Option α}
    (unwritten : argument ∉ given → WrittenOnce spells value []) :
    known given argument value none = value := by
  rw [known]
  split
  · rfl
  · next fresh =>
      cases value with
      | some held =>
          rcases unwritten fresh with ⟨text, impossible, _⟩
          cases impossible
      | none => rfl

/-- Once everything that is written is given, nothing of the values is left to come. -/
theorem upTo_eq (written : ∀ argument, ∃ texts, values.IsWritten argument texts ∧
    given.count argument = texts.length) : values.upTo given = values := by
  have unwritten (argument : Argument) (fresh : argument ∉ given) :
      values.IsWritten argument [] := by
    rcases written argument with ⟨texts, is_written, counted⟩
    rw [List.count_eq_zero_of_not_mem fresh] at counted
    rwa [List.eq_nil_of_length_eq_zero counted.symm] at is_written
  have all_options : values.mountOptions.take (given.count .mountOption) = values.mountOptions := by
    rcases written .mountOption with ⟨texts, rfl, counted⟩
    rw [counted, List.take_length]
  have partition : known given .partition values.partition 0 = values.partition := by
    rw [known]
    split
    · rfl
    · next fresh =>
        rcases unwritten .partition fresh with ⟨_, impossible, _⟩ | ⟨_, first⟩
        · cases impossible
        · exact first.symm
  rw [upTo, known_flag (unwritten .verbose), known_flag (unwritten .logJson),
    known_once (unwritten .configuration), known_once (unwritten .device),
    known_once (unwritten .drive), known_flag (unwritten .nonRewinding),
    known_once (unwritten .mode), known_flag (unwritten .detailed), known_flag (unwritten .json),
    all_options, known_once (unwritten .label), known_flag (unwritten .force),
    known_once (unwritten .blockSize), known_flag (unwritten .assumeYes),
    known_flag (unwritten .allowWrite), known_once (unwritten .output),
    known_once (unwritten .attributeId), partition, known_once (unwritten .attributeValue),
    known_once (unwritten .mountPoint), known_once (unwritten .suite),
    known_once (unwritten .count)]

theorem length_of_writtenOnce {α : Type} {spells : α → String → Prop} {value : Option α}
    {texts : List String} (written : WrittenOnce spells value texts) :
    texts.length = if value.isSome then 1 else 0 := by
  cases value with
  | some held =>
      rcases written with ⟨text, rfl, _⟩
      rfl
  | none =>
      rw [WrittenOnce] at written
      rw [written]
      rfl

theorem length_of_writtenFlag {is_set : Bool} {texts : List String}
    (written : WrittenFlag is_set texts) : texts.length = if is_set then 1 else 0 := by
  rw [WrittenFlag] at written
  subst written
  cases is_set <;> rfl

/-- An argument that may be given once is written by one text at most. -/
theorem length_le_of_isWritten {texts : List String} (once : argument.isRepeatable = false)
    (written : values.IsWritten argument texts) : texts.length ≤ 1 := by
  have one_or_none (is_one : Bool) : (if is_one then 1 else 0) ≤ 1 := by
    cases is_one <;> decide
  cases argument with
  | help | version =>
      rw [IsWritten] at written
      simp [written]
  | verbose | logJson | nonRewinding | detailed | json | force | assumeYes | allowWrite =>
      rw [length_of_writtenFlag written]
      exact one_or_none _
  | mountOption => cases once
  | partition =>
      rcases written with written | ⟨rfl, _⟩
      · rw [length_of_writtenOnce written]
        exact one_or_none _
      · exact Nat.zero_le 1
  | _ =>
      rw [length_of_writtenOnce written]
      exact one_or_none _

end ArgumentValues

end TapeAdmin
