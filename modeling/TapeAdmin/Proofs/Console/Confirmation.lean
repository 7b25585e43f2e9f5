import TapeAdmin.Proofs.Console.Destructive
import TapeAdmin.Proofs.Text.Lowering
import TapeAdmin.Proofs.Text.Trimming
import TapeAdmin.Proofs.Text.Utf8

/-!
# Answers to a question

What is read of what was typed when a question is asked, and which answers are a yes. One line is
read, whether or not it is a text, and the rest stays for later. Only `y` and `yes` are a yes, in
any letter case and between any blanks, so that nothing typed, an empty line, and all else are a no.
-/

namespace TapeAdmin

/-- Bytes are cut behind their first line feed; without one, all of them are the line. -/
inductive CutsLine : (typed line rest : List UInt8) → Prop where
  | feed {front rest : List UInt8} (none_before : 10 ∉ front) :
      CutsLine (front ++ 10 :: rest) (front ++ [10]) rest
  | all {typed : List UInt8} (none_typed : 10 ∉ typed) : CutsLine typed typed []

/-- The words that are a yes, letter by letter. -/
inductive YesWord : List Char → Prop where
  | letter {y : Char} (is_y : y ∈ ['y', 'Y']) : YesWord [y]
  | word {y e s : Char} (is_y : y ∈ ['y', 'Y']) (is_e : e ∈ ['e', 'E']) (is_s : s ∈ ['s', 'S']) :
      YesWord [y, e, s]

/-- An answer is a yes if nothing but blanks stands around such a word. -/
def MeansYes (answer : String) : Prop :=
  ∃ word, Text.TrimsTo answer.toList word ∧ YesWord word

theorem cutsLine_firstLine (typed : List UInt8) :
    CutsLine typed (firstLine typed).1 (firstLine typed).2 := by
  induction typed with
  | nil => exact .all List.not_mem_nil
  | cons byte bytes ih =>
      by_cases feed : byte = 10
      · subst feed
        rw [firstLine, if_pos rfl]
        exact CutsLine.feed List.not_mem_nil
      · have not_feed : 10 ≠ byte := Ne.symm feed
        rw [firstLine, if_neg feed]
        generalize firstLine bytes = parts at ih
        rcases parts with ⟨line, rest⟩
        dsimp only at ih ⊢
        cases ih with
        | @feed front _ none_before =>
            have none_in_front : 10 ∉ byte :: front := by simp [not_feed, none_before]
            exact CutsLine.feed none_in_front
        | all none_typed => exact .all (by simp [not_feed, none_typed])

/-! ### Which answers are a yes -/

theorem toLower_eq_iff {char letter : Char} (letter_mem : letter ∈ ['y', 'e', 's']) :
    char.toLower = letter ↔ char ∈ [letter, letter.toUpper] := by
  by_cases ascii : char.toNat < 0x80
  · have table : ∀ code : Fin 0x80, ['y', 'e', 's'].all fun letter =>
        (Char.ofNat code).toLower = letter ↔ Char.ofNat code ∈ [letter, letter.toUpper] := by
      decide +kernel
    have entry :=
      of_decide_eq_true (List.all_eq_true.mp (table ⟨char.toNat, ascii⟩) letter letter_mem)
    rwa [Char.ofNat_toNat] at entry
  · have letters_ascii : ['y', 'e', 's'].all fun letter =>
        letter.toNat < 0x80 ∧ letter.toUpper.toNat < 0x80 := by
      decide
    rcases of_decide_eq_true (List.all_eq_true.mp letters_ascii letter letter_mem) with
      ⟨small_ascii, capital_ascii⟩
    rw [Text.toLower_of_not_ascii ascii]
    constructor
    · rintro rfl
      exact absurd small_ascii ascii
    · intro char_mem
      rcases List.mem_pair.mp char_mem with rfl | rfl
      · exact absurd small_ascii ascii
      · exact absurd capital_ascii ascii

theorem yesWord_iff {word : List Char} :
    YesWord word ↔ word.map Char.toLower = ['y'] ∨ word.map Char.toLower = ['y', 'e', 's'] := by
  have is_y {char : Char} : char.toLower = 'y' ↔ char ∈ ['y', 'Y'] := toLower_eq_iff (by decide)
  have is_e {char : Char} : char.toLower = 'e' ↔ char ∈ ['e', 'E'] := toLower_eq_iff (by decide)
  have is_s {char : Char} : char.toLower = 's' ↔ char ∈ ['s', 'S'] := toLower_eq_iff (by decide)
  constructor
  · rintro (⟨y⟩ | ⟨y, e, s⟩)
    · exact .inl (by simp only [List.map_cons, List.map_nil, is_y.mpr y])
    · exact .inr (by simp only [List.map_cons, List.map_nil, is_y.mpr y, is_e.mpr e, is_s.mpr s])
  · rintro (lowered | lowered)
    · simp only [List.map_eq_cons_iff, List.map_eq_nil_iff] at lowered
      rcases lowered with ⟨y, _, rfl, y_eq, rfl⟩
      exact .letter (is_y.mp y_eq)
    · simp only [List.map_eq_cons_iff, List.map_eq_nil_iff] at lowered
      rcases lowered with ⟨y, _, rfl, y_eq, e, _, rfl, e_eq, s, _, rfl, s_eq, rfl⟩
      exact .word (is_y.mp y_eq) (is_e.mp e_eq) (is_s.mp s_eq)

theorem isYes_iff_meansYes {answer : String} : isYes answer = true ↔ MeansYes answer := by
  have y_alone : Text.IsLoweredAlone 'y' := by decide
  have es_alone : ∀ letter ∈ ['e', 's'], Text.IsLoweredAlone letter := by
    rw [List.forall_mem_cons, List.forall_mem_singleton]
    decide
  have lowered : isYes answer = true ↔ YesWord (Text.trim answer).toList := by
    rw [yesWord_iff, ← Text.lower_eq_iff (List.forall_mem_singleton.mpr y_alone),
      ← Text.lower_eq_iff (List.forall_mem_cons.mpr ⟨y_alone, es_alone⟩)]
    simp [isYes]
  rw [lowered, MeansYes]
  simp only [Text.trimsTo_iff, exists_eq_left']

namespace Host

variable {σ : Type}

/--
A question is shown with its mark, and then one line is read: when it is read, all that was printed
before and the question with its mark have been shown, and nothing is shown afterwards. The line are
the bytes up to the first line feed, all of them without one, and the others stay for later. If the
line is not the UTF-8 bytes of a text the question fails as a system error; otherwise it is
answered, by a yes exactly if the line without the blanks around it is `y` or `Y`, or `yes` in any
letter case.
-/
theorem confirm_outcome (question : String) (world : World σ) :
    let asked := (confirm question : Attempt σ Bool).run.run world
    let shown := world.printed ++ (question ++ " [y/N]: ")
    ∃ line rest,
      let reading : Reading := ⟨line, shown⟩
      CutsLine world.typed line rest ∧
      asked.2 = { world with
        printed := shown
        typed := rest
        readings := world.readings ++ [reading] } ∧
      ((∃ text agreed, Text.utf8 text = line ∧ (agreed = true ↔ MeansYes text) ∧
          asked.1 = .ok agreed) ∨
        (∀ text, Text.utf8 text ≠ line) ∧ asked.1 = .error (.system .invalidUtf8)) := by
  intro asked shown
  have asked_eq : asked =
      (readLine >>= fun answer => (Pure.pure (isYes answer) : Attempt σ Bool)).run.run
        { world with printed := shown } :=
    rfl
  have read := readLine_run { world with printed := shown }
  refine ⟨(firstLine world.typed).1, (firstLine world.typed).2,
    cutsLine_firstLine world.typed, ?_⟩
  cases line : Text.ofUtf8? (firstLine world.typed).1 with
  | none =>
      simp only [line] at read
      rw [asked_eq, Attempt.run_bind_of_error read]
      refine ⟨rfl, .inr ⟨fun text bytes => ?_, rfl⟩⟩
      rw [Text.ofUtf8?_eq_some_iff.mpr bytes] at line
      cases line
  | some answer =>
      simp only [line] at read
      rw [asked_eq, Attempt.run_bind_of_ok read]
      have bytes := Text.ofUtf8?_eq_some_iff.mp line
      exact ⟨rfl, .inl ⟨answer, isYes answer, bytes, isYes_iff_meansYes, rfl⟩⟩

example : isYes "\u00a0YeS\r\n" = true ∧ isYes "" = false ∧ isYes "yes please" = false := by
  decide

end Host

end TapeAdmin
