import TapeAdmin.Proofs.Toml.Table
import TapeAdmin.Toml.Document

/-!
# Documents without repeated keys

Whatever a document says, the table that is read from it has every key once, and so have the tables
inside it. A reader is described by what holds of all that it reads; this passes through the ways of
putting readers together, and so from the characters of a value up to the lines of a document.
-/

namespace TapeAdmin.Toml

namespace Reader

variable {α β : Type} {Holds : α → Prop} {HoldsNext : β → Prop} {reader : Reader α}

/-- Something holds of all that a reader reads. -/
def Gives (reader : Reader α) (Holds : α → Prop) : Prop :=
  ∀ ⦃cursor result after⦄, reader cursor = .ok (result, after) → Holds result

theorem gives_true (reader : Reader α) : reader.Gives fun _ => True :=
  fun _ _ _ _ => trivial

theorem gives_pure {result : α} (holds : Holds result) : Gives (pure result) Holds := by
  intro cursor other after read
  cases read
  exact holds

theorem gives_bind {next : α → Reader β} (first : reader.Gives Holds)
    (second : ∀ result, Holds result → (next result).Gives HoldsNext) :
    Gives (reader >>= next) HoldsNext := by
  intro cursor result after read
  rcases exists_of_bind_ok read with ⟨⟨between, reached⟩, first_read, second_read⟩
  exact second between (first first_read) second_read

theorem gives_then {next : α → Reader β} (second : ∀ result, (next result).Gives HoldsNext) :
    Gives (reader >>= next) HoldsNext :=
  gives_bind (gives_true reader) fun result _ => second result

theorem gives_mismatch : Gives mismatch Holds :=
  fun _ _ _ read => nomatch read

theorem gives_ite {condition : Prop} [Decidable condition] {second : Reader α}
    (gives : reader.Gives Holds) (second_gives : second.Gives Holds) :
    Gives (if condition then reader else second) Holds := by
  split
  · exact gives
  · exact second_gives

theorem gives_adding (gives : reader.Gives Holds) (change : Mismatch → Mismatch) :
    (reader.adding change).Gives Holds := by
  intro cursor result after read
  rw [adding] at read
  cases reads : reader cursor with
  | error mismatch =>
      rw [reads] at read
      cases read
  | ok outcome =>
      rw [reads] at read
      cases read
      exact gives reads

theorem gives_either {second : Reader α} (gives : reader.Gives Holds)
    (second_gives : second.Gives Holds) : (either reader second).Gives Holds := by
  intro cursor result after read
  rw [either] at read
  split at read
  · next reads =>
      cases read
      exact gives reads
  · split at read
    · cases read
    · exact second_gives read

theorem gives_attempt (gives : reader.Gives Holds) :
    (attempt reader).Gives fun attempted => ∀ result ∈ attempted, Holds result := by
  intro cursor attempted after read
  rw [attempt] at read
  split at read
  · next reads =>
      cases read
      intro result is_read
      cases is_read
      exact gives reads
  · split at read
    · cases read
    · cases read
      exact fun result is_read => nomatch is_read

theorem gives_refine {convert : α → Except String β} (gives : reader.Gives Holds)
    (converts : ∀ result refined, Holds result → convert result = .ok refined → HoldsNext refined) :
    (refine reader convert).Gives HoldsNext := by
  intro cursor refined after read
  rw [refine] at read
  rcases exists_of_bind_ok read with ⟨⟨result, reached⟩, reads, read⟩
  dsimp only at read
  split at read
  · next converted =>
      cases read
      exact converts result _ (gives reads) converted
  · cases read

theorem gives_manyWithin (gives : reader.Gives Holds) (limit : List Char) :
    (manyWithin reader limit).Gives fun items => ∀ item ∈ items, Holds item := by
  induction limit with
  | nil => exact gives_pure (by simp)
  | cons _ limit ih =>
      refine gives_bind (gives_attempt gives) fun attempted holds => ?_
      cases attempted with
      | none => exact gives_pure (by simp)
      | some first =>
          refine gives_bind ih fun others others_hold => gives_pure ?_
          simpa using ⟨holds first rfl, others_hold⟩

theorem gives_separated (gives : reader.Gives Holds) (separator : Reader Unit) :
    (separated reader separator).Gives fun items => ∀ item ∈ items, Holds item := by
  refine gives_bind gives fun first holds => ?_
  have many_give : (many (do separator; reader)).Gives fun items => ∀ item ∈ items, Holds item :=
    gives_then fun limit => gives_manyWithin (gives_then fun _ => gives) limit
  refine gives_bind many_give fun others others_hold => gives_pure ?_
  simpa using ⟨holds, others_hold⟩

theorem gives_spanned (gives : reader.Gives Holds) :
    (spanned reader).Gives fun read => Holds read.1 :=
  gives_then fun _ => gives_bind gives fun _ holds => gives_then fun _ => gives_pure holds

/-! ## Values -/

theorem gives_nothingInside : Gives nothingInside Holds := by
  refine gives_then fun place => ?_
  exact fun _ _ _ read => nomatch read

variable {item : Reader Value} {items : Reader (List Value)} {inside : Reader Entries}

theorem gives_listItems (gives : item.Gives Value.Unambiguous) :
    (listItems item).Gives fun items => ∀ item ∈ items, item.Unambiguous := by
  have item_gives : Gives (do gap; let value ← item; gap; pure value) Value.Unambiguous :=
    gives_then fun _ => gives_bind gives fun _ holds => gives_then fun _ => gives_pure holds
  refine gives_bind (gives_attempt (gives_bind (gives_separated item_gives _) fun items hold =>
    gives_then fun _ => gives_pure hold)) fun attempted hold => ?_
  refine gives_then fun _ => gives_pure ?_
  cases attempted with
  | none => simp
  | some items => exact hold items rfl

theorem gives_entry (gives : item.Gives Value.Unambiguous) :
    (entry item).Gives fun read => read.2.Unambiguous := by
  refine gives_then fun path => gives_adding ?_ _
  refine gives_then fun _ => gives_then fun _ => ?_
  exact gives_bind gives fun value unambiguous => gives_pure unambiguous

/-- Entries added one after the other. -/
theorem unambiguous_foldlM_addDotted {added : List ((List Key × Key) × Value)}
    (unambiguous_added : ∀ entry ∈ added, entry.2.Unambiguous) {entries result : Entries}
    (unambiguous : entries.Unambiguous)
    (folded : added.foldlM (fun table ((path, key), value) =>
      Entries.addDotted .braces path key value (Entries.duplicate key) .braces table) entries =
        .ok result) :
    result.Unambiguous := by
  induction added generalizing entries with
  | nil =>
      cases folded
      exact unambiguous
  | cons first added ih =>
      rw [List.foldlM_cons] at folded
      rcases exists_of_bind_ok folded with ⟨between, first_added, folded⟩
      have holds := List.forall_mem_cons.mp unambiguous_added
      exact ih holds.2 (Entries.keeps_addDotted _ _ holds.1 _ first_added unambiguous) folded

theorem gives_tableEntries (gives : item.Gives Value.Unambiguous) :
    (tableEntries item).Gives Entries.Unambiguous := by
  have line_gives : Gives (do let entry ← entry item; spaces; pure entry)
      fun read => read.2.Unambiguous :=
    gives_bind (gives_entry gives) fun _ holds => gives_then fun _ => gives_pure holds
  refine gives_refine (gives_bind (gives_attempt (gives_separated line_gives _))
    fun attempted hold => gives_then fun _ => gives_pure ?_) fun added result hold folded =>
      unambiguous_foldlM_addDotted hold Entries.unambiguous_nil folded
  cases attempted with
  | none => simp
  | some added => exact hold added rfl

theorem gives_valueFrom (items_give : items.Gives fun items => ∀ item ∈ items, item.Unambiguous)
    (inside_gives : inside.Gives Entries.Unambiguous) (char : Char) :
    (valueFrom items inside char).Gives fun fill => ∀ span, (fill span).Unambiguous := by
  have number_gives : Gives (do let number ← integer; pure fun span => Value.integer span number)
      fun fill => ∀ span, (fill span).Unambiguous :=
    gives_then fun number => gives_pure fun span => .integer span number
  refine gives_ite ?text (gives_ite ?list (gives_ite ?table (gives_ite ?number
    (gives_ite ?underscore (gives_ite ?point (gives_ite ?true (gives_ite ?false ?special)))))))
  case text => exact gives_then fun content => gives_pure fun span => .text span content
  case list =>
    refine gives_then fun _ => gives_bind (gives_adding items_give _) fun items unambiguous => ?_
    exact gives_then fun _ => gives_pure fun span => .list span false unambiguous
  case table =>
    refine gives_then fun _ => gives_bind (gives_adding inside_gives _) ?_
    intro entries unambiguous
    exact gives_then fun _ => gives_pure fun span => unambiguous.table
  case number =>
    refine gives_either (gives_then fun written => gives_pure fun span => ?_)
      (gives_either (gives_then fun number => gives_pure fun span => ?_) number_gives)
    · exact .moment span _
    · exact .float span number
  case underscore => exact gives_then fun number => gives_pure fun span => .integer span number
  case point => exact gives_then fun number => gives_pure fun span => .float span number
  case true => exact gives_then fun _ => gives_pure fun span => .boolean span true
  case false => exact gives_then fun _ => gives_pure fun span => .boolean span false
  case special => exact gives_then fun number => gives_pure fun span => .float span number

theorem gives_valueWith (items_give : items.Gives fun items => ∀ item ∈ items, item.Unambiguous)
    (inside_gives : inside.Gives Entries.Unambiguous) :
    (value.valueWith items inside).Gives Value.Unambiguous := by
  refine gives_then fun next => ?_
  cases next with
  | none => exact gives_mismatch
  | some char =>
      refine gives_bind (gives_spanned (gives_valueFrom items_give inside_gives char)) ?_
      exact fun read unambiguous => gives_pure (unambiguous read.2)

/-- The values inside a value are read with one level less. -/
theorem gives_value (levels : Nat) : (value levels).Gives Value.Unambiguous := by
  induction levels with
  | zero => exact gives_valueWith gives_nothingInside gives_nothingInside
  | succ levels ih => exact gives_valueWith (gives_listItems ih) (gives_tableEntries ih)

/-! ## Lines -/

theorem gives_entryLine (opened : List Key) {entries : Entries}
    (unambiguous : entries.Unambiguous) :
    (entryLine opened entries).Gives Entries.Unambiguous := by
  refine gives_refine (gives_bind (gives_entry (gives_value _)) fun read holds =>
    gives_then fun _ => gives_pure holds) fun read result holds added => ?_
  rcases exists_of_bind_ok added with ⟨between, changed, stretched⟩
  cases stretched
  have unambiguous_between :=
    Entries.keeps_changeAt (Entries.keeps_addDotted _ _ holds _) opened [] changed unambiguous
  exact unambiguous_between.stretch _ opened

theorem gives_headerLine {entries : Entries} (unambiguous : entries.Unambiguous) :
    (headerLine entries).Gives fun opened => opened.2.Unambiguous := by
  refine gives_adding (gives_then fun remaining => ?_) _
  split
  · exact gives_mismatch
  · refine gives_refine (gives_true _) fun read result _ opened => ?_
    dsimp only at opened
    split at opened
    · rcases exists_of_bind_ok opened with ⟨between, changed, opened⟩
      cases opened
      exact Entries.keeps_openListTable _ _ _ changed unambiguous
    · rcases exists_of_bind_ok opened with ⟨between, changed, opened⟩
      cases opened
      exact Entries.keeps_openTable _ _ _ changed unambiguous

theorem gives_lines (fuel : Nat) (opened : List Key) {entries : Entries}
    (unambiguous : entries.Unambiguous) :
    (lines fuel opened entries).Gives Entries.Unambiguous := by
  induction fuel generalizing opened entries with
  | zero => exact gives_pure unambiguous
  | succ fuel ih =>
      have further := ih opened unambiguous
      refine gives_then fun _ => gives_then fun next => ?_
      split
      · exact gives_pure unambiguous
      · exact gives_then fun _ => gives_then fun _ => further
      · exact gives_then fun _ => gives_ite (gives_then fun _ => further) further
      · exact gives_then fun _ => gives_ite (gives_then fun _ => further) further
      · exact gives_bind (gives_headerLine unambiguous) fun read holds => ih read.1 holds
      · exact gives_bind (gives_entryLine opened unambiguous) fun entries holds => ih opened holds

end Reader

/-- No table of a document that is read has a key twice. -/
theorem unambiguous_of_parse {document : String} {entries : Entries}
    (parsed : parse document = .ok entries) : entries.Unambiguous := by
  rw [parse] at parsed
  split at parsed
  · next reads =>
      cases parsed
      exact Reader.gives_lines _ [] Entries.unambiguous_nil reads
  · cases parsed

end TapeAdmin.Toml
