import Mathlib.Data.List.Basic
import Mathlib.Data.Option.Basic
import TapeAdmin.Text.Utf8

/-!
# Reading UTF-8 back

What was written as UTF-8 is read back, by the strict reader and by the lossy one. A character takes
one to four bytes; for each width there is one lemma that says when a lead byte and the bytes after
it are read as a character, and the encoding of a character meets the conditions of its width. The
strict reader accepts nothing else: for each width, what is read as a character is its encoding.

Bytes below 0x80 are characters of their own, so a list of them can be read byte by byte.
-/

namespace TapeAdmin.Text

theorem isContinuation_iff {byte : UInt8} :
    isContinuation byte = true ↔ 0x80 ≤ byte.toNat ∧ byte.toNat ≤ 0xBF := by
  simp [isContinuation, UInt8.le_iff_toNat_le]

/-- A second byte is a continuation byte, within narrower bounds behind two leading bytes. -/
theorem isSecond_iff {low least high greatest first second : UInt8} (apart : low ≠ high)
    (least_le : 0x80 ≤ least.toNat) (le_greatest : greatest.toNat ≤ 0xBF) :
    isSecond low least high greatest first second = true ↔
      (0x80 ≤ second.toNat ∧ second.toNat ≤ 0xBF) ∧
        (first = low → least.toNat ≤ second.toNat) ∧
        (first = high → second.toNat ≤ greatest.toNat) := by
  rw [isSecond]
  by_cases is_low : first = low
  · subst is_low
    simp only [if_true, Bool.and_eq_true, decide_eq_true_eq, UInt8.le_iff_toNat_le,
      UInt8.reduceToNat, true_imp_iff, apart, false_imp_iff, and_true]
    omega
  · by_cases is_high : first = high
    · subst is_high
      simp only [is_low, if_false, if_true, Bool.and_eq_true, decide_eq_true_eq,
        UInt8.le_iff_toNat_le, UInt8.reduceToNat, true_imp_iff, false_imp_iff, true_and]
      omega
    · simp [is_low, is_high, isContinuation_iff]

theorem secondOfThree_iff {first second : UInt8} :
    secondOfThree first second = true ↔
      (0x80 ≤ second.toNat ∧ second.toNat ≤ 0xBF) ∧
        (first.toNat = 0xE0 → 0xA0 ≤ second.toNat) ∧
        (first.toNat = 0xED → second.toNat ≤ 0x9F) := by
  rw [secondOfThree, isSecond_iff (by decide) (by decide) (by decide), ← UInt8.toNat_inj,
    ← UInt8.toNat_inj]
  rfl

theorem secondOfFour_iff {first second : UInt8} :
    secondOfFour first second = true ↔
      (0x80 ≤ second.toNat ∧ second.toNat ≤ 0xBF) ∧
        (first.toNat = 0xF0 → 0x90 ≤ second.toNat) ∧
        (first.toNat = 0xF4 → second.toNat ≤ 0x8F) := by
  rw [secondOfFour, isSecond_iff (by decide) (by decide) (by decide), ← UInt8.toNat_inj,
    ← UInt8.toNat_inj]
  rfl

theorem utf8Head_one {first : UInt8} (rest : List UInt8) (small : first.toNat < 0x80) :
    utf8Head first rest = .char (Char.ofNat first.toNat) rest := by
  have ascii : first < 0x80 := by simpa [UInt8.lt_iff_toNat_lt] using small
  simp [utf8Head, ascii]

theorem not_lt_of_le_toNat {first : UInt8} (large : 0x80 ≤ first.toNat) : ¬first < 0x80 := by
  simp only [UInt8.lt_iff_toNat_lt, UInt8.reduceToNat]
  omega

theorem not_twoByteLead {first : UInt8} (large : 0xE0 ≤ first.toNat) :
    ¬(0xC2 ≤ first ∧ first ≤ 0xDF) := by
  simp only [UInt8.le_iff_toNat_le, UInt8.reduceToNat]
  omega

theorem utf8Head_two {first second : UInt8} (rest : List UInt8)
    (lead : 0xC2 ≤ first.toNat ∧ first.toNat ≤ 0xDF) (next : isContinuation second = true) :
    utf8Head first (second :: rest) =
      .char (Char.ofNat ((first.toNat - 0xC0) * 64 + continuationBits second)) rest := by
  have notOne := not_lt_of_le_toNat (show 0x80 ≤ first.toNat by omega)
  have isTwo : 0xC2 ≤ first ∧ first ≤ 0xDF := by simpa [UInt8.le_iff_toNat_le] using lead
  simp [utf8Head, notOne, isTwo, next]

theorem utf8Head_three {first second third : UInt8} (rest : List UInt8)
    (lead : 0xE0 ≤ first.toNat ∧ first.toNat ≤ 0xEF)
    (next : secondOfThree first second = true) (last : isContinuation third = true) :
    utf8Head first (second :: third :: rest) =
      .char (Char.ofNat (((first.toNat - 0xE0) * 64 + continuationBits second) * 64 +
        continuationBits third)) rest := by
  have notOne := not_lt_of_le_toNat (show 0x80 ≤ first.toNat by omega)
  have notTwo := not_twoByteLead (show 0xE0 ≤ first.toNat by omega)
  have isThree : 0xE0 ≤ first ∧ first ≤ 0xEF := by simpa [UInt8.le_iff_toNat_le] using lead
  simp only [utf8Head, notOne, Bool.and_eq_true, decide_eq_true_eq, notTwo, isThree, next, last,
    if_true, if_false, and_self]

theorem utf8Head_four {first second third fourth : UInt8} (rest : List UInt8)
    (lead : 0xF0 ≤ first.toNat ∧ first.toNat ≤ 0xF4)
    (next : secondOfFour first second = true) (afterNext : isContinuation third = true)
    (last : isContinuation fourth = true) :
    utf8Head first (second :: third :: fourth :: rest) =
      .char (Char.ofNat ((((first.toNat - 0xF0) * 64 + continuationBits second) * 64 +
        continuationBits third) * 64 + continuationBits fourth)) rest := by
  have notOne := not_lt_of_le_toNat (show 0x80 ≤ first.toNat by omega)
  have notTwo := not_twoByteLead (show 0xE0 ≤ first.toNat by omega)
  have notThree : ¬(0xE0 ≤ first ∧ first ≤ 0xEF) := by
    simp only [UInt8.le_iff_toNat_le, UInt8.reduceToNat]
    omega
  have isFour : 0xF0 ≤ first ∧ first ≤ 0xF4 := by simpa [UInt8.le_iff_toNat_le] using lead
  simp only [utf8Head, notOne, Bool.and_eq_true, decide_eq_true_eq, notTwo, notThree, isFour, next,
    afterNext, last, if_true, if_false, and_self]

/-- A character is read back from its encoding, whatever follows. -/
theorem utf8Head_encode (char : Char) (rest : List UInt8) :
    ∃ first tail, String.utf8EncodeChar char = first :: tail ∧
      utf8Head first (tail ++ rest) = .char char rest := by
  have valid : char.toNat < 0xD800 ∨ 0xDFFF < char.toNat ∧ char.toNat < 0x110000 := char.valid
  have back : Char.ofNat char.toNat = char := Char.ofNat_toNat char
  simp only [String.utf8EncodeChar, Char.toNat_val]
  generalize char.toNat = code at valid back ⊢
  -- One case for each width; in each, the bits in the bytes add up to the number of the character.
  split
  · refine ⟨_, _, rfl, ?_⟩
    have first : (UInt8.ofNat code).toNat = code := by
      rw [UInt8.toNat_ofNat']
      omega
    rw [List.nil_append, utf8Head_one _ (by omega), first, back]
  · split
    · refine ⟨_, _, rfl, ?_⟩
      simp only [List.cons_append, List.nil_append]
      rw [utf8Head_two]
      · simp only [continuationBits, UInt8.toNat_ofNat', Nat.reducePow]
        rw [← back]
        congr 2
        omega
      · simp only [UInt8.toNat_ofNat', Nat.reducePow]
        omega
      · simp only [isContinuation_iff, UInt8.toNat_ofNat', Nat.reducePow]
        omega
    · split
      · refine ⟨_, _, rfl, ?_⟩
        simp only [List.cons_append, List.nil_append]
        rw [utf8Head_three]
        · simp only [continuationBits, UInt8.toNat_ofNat', Nat.reducePow]
          rw [← back]
          congr 2
          omega
        · simp only [UInt8.toNat_ofNat', Nat.reducePow]
          omega
        · simp only [secondOfThree_iff, UInt8.toNat_ofNat', Nat.reducePow]
          omega
        · simp only [isContinuation_iff, UInt8.toNat_ofNat', Nat.reducePow]
          omega
      · refine ⟨_, _, rfl, ?_⟩
        simp only [List.cons_append, List.nil_append]
        rw [utf8Head_four]
        · simp only [continuationBits, UInt8.toNat_ofNat', Nat.reducePow]
          rw [← back]
          congr 2
          omega
        · simp only [UInt8.toNat_ofNat', Nat.reducePow]
          omega
        · simp only [secondOfFour_iff, UInt8.toNat_ofNat', Nat.reducePow]
          omega
        · simp only [isContinuation_iff, UInt8.toNat_ofNat', Nat.reducePow]
          omega
        · simp only [isContinuation_iff, UInt8.toNat_ofNat', Nat.reducePow]
          omega

theorem utf8Pieces_of_char {first : UInt8} {rest remaining : List UInt8} {char : Char}
    (head : utf8Head first rest = .char char remaining) :
    utf8Pieces (first :: rest) = some char :: utf8Pieces remaining := by
  rw [utf8Pieces]
  split
  · next found =>
      rw [head] at found
      cases found
      rfl
  · next found =>
      rw [head] at found
      cases found

/-- Encoded characters are read back, whatever follows. -/
theorem utf8Pieces_encode_append (chars : List Char) (rest : List UInt8) :
    utf8Pieces (chars.flatMap String.utf8EncodeChar ++ rest) =
      chars.map some ++ utf8Pieces rest := by
  induction chars with
  | nil => rfl
  | cons char chars ih =>
      rcases utf8Head_encode char (chars.flatMap String.utf8EncodeChar ++ rest) with
        ⟨first, tail, encoded, head⟩
      rw [List.flatMap_cons, encoded, List.append_assoc, List.cons_append,
        utf8Pieces_of_char head, ih, List.map_cons, List.cons_append]

theorem utf8Pieces_utf8 (text : String) : utf8Pieces (utf8 text) = text.toList.map some := by
  simpa [utf8, utf8Pieces] using utf8Pieces_encode_append text.toList []

/-- Nothing of a text is lost by the lossy reader. -/
theorem ofUtf8Lossy_utf8 (text : String) : ofUtf8Lossy (utf8 text) = text := by
  simp [ofUtf8Lossy, utf8Pieces_utf8, Function.comp_def]

theorem utf8_append (text other : String) : utf8 (text ++ other) = utf8 text ++ utf8 other := by
  simp [utf8]

/-- Bytes below 0x80 are read one by one. -/
theorem utf8Pieces_of_ascii {bytes : List UInt8} (ascii : ∀ byte ∈ bytes, byte.toNat < 0x80) :
    utf8Pieces bytes = (bytes.map fun byte => Char.ofNat byte.toNat).map some := by
  induction bytes with
  | nil => simp [utf8Pieces]
  | cons byte bytes ih =>
      have head := utf8Head_one bytes (ascii byte List.mem_cons_self)
      have later := ih fun other other_mem => ascii other (List.mem_cons_of_mem _ other_mem)
      rw [utf8Pieces_of_char head, later, List.map_cons, List.map_cons]

/-- A text all of whose bytes are below 0x80 has one character for each byte. -/
theorem toList_of_ascii {text : String} (ascii : ∀ byte ∈ utf8 text, byte.toNat < 0x80) :
    text.toList = (utf8 text).map fun byte => Char.ofNat byte.toNat := by
  have pieces := utf8Pieces_of_ascii ascii
  rw [utf8Pieces_utf8] at pieces
  exact List.map_injective_iff.mpr (Option.some_injective _) pieces

/-- ASCII characters take one byte each. -/
theorem utf8_ofList_of_ascii {chars : List Char} (ascii : ∀ char ∈ chars, char.toNat < 0x80) :
    utf8 (String.ofList chars) = chars.map fun char => UInt8.ofNat char.toNat := by
  rw [utf8, String.toList_ofList]
  induction chars with
  | nil => rfl
  | cons char chars ih =>
      have here := ascii char List.mem_cons_self
      have later := ih fun other other_mem => ascii other (List.mem_cons_of_mem _ other_mem)
      have encoded : String.utf8EncodeChar char = [UInt8.ofNat char.toNat] := by
        simp only [String.utf8EncodeChar, Char.toNat_val]
        rw [if_pos (by omega)]
      rw [List.flatMap_cons, encoded, later, List.map_cons, List.singleton_append]

/-- The bytes of a text are as many as its size tells. -/
theorem length_utf8 (text : String) : (utf8 text).length = text.utf8ByteSize := by
  have bytes : (utf8 text).toByteArray = text.toByteArray := String.utf8Encode_toList
  rw [← List.size_toByteArray, bytes, String.size_toByteArray]

/-! ### Bytes that are read are the encoding -/

theorem ofNat_eq_of_toNat {code : Nat} {byte : UInt8} (same : code = byte.toNat) :
    UInt8.ofNat code = byte := by
  rw [same, UInt8.ofNat_toNat]

/-- The encoding of the character of a number depends on the number only. -/
theorem utf8EncodeChar_ofNat {code : Nat} (valid : code.isValidChar) :
    String.utf8EncodeChar (Char.ofNat code) =
      if code ≤ 0x7F then [UInt8.ofNat code]
      else if code ≤ 0x7FF then
        [UInt8.ofNat (code / 64 % 32 + 0xC0), UInt8.ofNat (code % 64 + 0x80)]
      else if code ≤ 0xFFFF then
        [UInt8.ofNat (code / 4096 % 16 + 0xE0), UInt8.ofNat (code / 64 % 64 + 0x80),
          UInt8.ofNat (code % 64 + 0x80)]
      else
        [UInt8.ofNat (code / 262144 % 8 + 0xF0), UInt8.ofNat (code / 4096 % 64 + 0x80),
          UInt8.ofNat (code / 64 % 64 + 0x80), UInt8.ofNat (code % 64 + 0x80)] := by
  have number : (Char.ofNat code).toNat = code := congrArg Char.toNat (dif_pos valid)
  rw [String.utf8EncodeChar]
  simp only [Char.toNat_val, number]

theorem encode_one {first : UInt8} (small : first.toNat < 0x80) :
    String.utf8EncodeChar (Char.ofNat first.toNat) = [first] := by
  rw [utf8EncodeChar_ofNat (.inl (by omega)), if_pos (by omega), UInt8.ofNat_toNat]

theorem encode_two {first second : UInt8} (lead : 0xC2 ≤ first.toNat ∧ first.toNat ≤ 0xDF)
    (next : isContinuation second = true) :
    String.utf8EncodeChar (Char.ofNat ((first.toNat - 0xC0) * 64 + continuationBits second)) =
      [first, second] := by
  rw [isContinuation_iff] at next
  rw [continuationBits, utf8EncodeChar_ofNat (.inl (by omega)), if_neg (by omega),
    if_pos (by omega)]
  simp only [List.cons.injEq, and_true]
  exact ⟨ofNat_eq_of_toNat (by omega), ofNat_eq_of_toNat (by omega)⟩

theorem encode_three {first second third : UInt8}
    (lead : 0xE0 ≤ first.toNat ∧ first.toNat ≤ 0xEF)
    (next : secondOfThree first second = true) (last : isContinuation third = true) :
    String.utf8EncodeChar (Char.ofNat (((first.toNat - 0xE0) * 64 + continuationBits second) * 64 +
      continuationBits third)) = [first, second, third] := by
  rw [secondOfThree_iff] at next
  rw [isContinuation_iff] at last
  have valid : (((first.toNat - 0xE0) * 64 + second.toNat % 64) * 64 +
      third.toNat % 64).isValidChar := by
    simp only [Nat.isValidChar]
    omega
  rw [continuationBits, continuationBits, utf8EncodeChar_ofNat valid, if_neg (by omega),
    if_neg (by omega), if_pos (by omega)]
  simp only [List.cons.injEq, and_true]
  exact ⟨ofNat_eq_of_toNat (by omega), ofNat_eq_of_toNat (by omega), ofNat_eq_of_toNat (by omega)⟩

theorem encode_four {first second third fourth : UInt8}
    (lead : 0xF0 ≤ first.toNat ∧ first.toNat ≤ 0xF4)
    (next : secondOfFour first second = true) (afterNext : isContinuation third = true)
    (last : isContinuation fourth = true) :
    String.utf8EncodeChar (Char.ofNat ((((first.toNat - 0xF0) * 64 + continuationBits second) * 64 +
      continuationBits third) * 64 + continuationBits fourth)) =
      [first, second, third, fourth] := by
  rw [secondOfFour_iff] at next
  rw [isContinuation_iff] at afterNext last
  have valid : ((((first.toNat - 0xF0) * 64 + second.toNat % 64) * 64 + third.toNat % 64) * 64 +
      fourth.toNat % 64).isValidChar := by
    simp only [Nat.isValidChar]
    omega
  rw [continuationBits, continuationBits, continuationBits, utf8EncodeChar_ofNat valid,
    if_neg (by omega), if_neg (by omega), if_neg (by omega)]
  simp only [List.cons.injEq, and_true]
  exact ⟨ofNat_eq_of_toNat (by omega), ofNat_eq_of_toNat (by omega), ofNat_eq_of_toNat (by omega),
    ofNat_eq_of_toNat (by omega)⟩

/-- Bytes that are read as a character are its encoding. -/
theorem encode_of_utf8Head {first : UInt8} {rest remaining : List UInt8} {char : Char}
    (head : utf8Head first rest = .char char remaining) :
    first :: rest = String.utf8EncodeChar char ++ remaining := by
  unfold utf8Head at head
  split at head
  · next small =>
      cases head
      rw [encode_one (UInt8.lt_iff_toNat_lt.mp small)]
      rfl
  · simp only [Bool.and_eq_true, decide_eq_true_eq, UInt8.le_iff_toNat_le,
      UInt8.reduceToNat] at head
    split at head
    · next lead =>
        repeat' split at head
        all_goals cases head
        rw [encode_two lead ‹_›]
        rfl
    · split at head
      · next lead =>
          repeat' split at head
          all_goals cases head
          rw [encode_three lead ‹_› ‹_›]
          rfl
      · split at head
        · next lead =>
            repeat' split at head
            all_goals cases head
            rw [encode_four lead ‹_› ‹_› ‹_›]
            rfl
        · cases head

/-- Bytes without malformed parts are the encoding of what they are read as. -/
theorem encode_of_utf8Pieces {bytes : List UInt8} {chars : List Char}
    (pieces : utf8Pieces bytes = chars.map some) : chars.flatMap String.utf8EncodeChar = bytes := by
  induction bytes using utf8Pieces.induct generalizing chars with
  | case1 =>
      rw [utf8Pieces, eq_comm, List.map_eq_nil_iff] at pieces
      rw [pieces, List.flatMap_nil]
  | case2 first rest char remaining head _ ih =>
      rw [utf8Pieces_of_char head] at pieces
      rcases List.map_eq_cons_iff.mp pieces.symm with ⟨other, others, rfl, same, later⟩
      cases same
      rw [List.flatMap_cons, ih later.symm, encode_of_utf8Head head]
  | case3 first rest remaining head _ ih =>
      have malformed : ∃ others, utf8Pieces (first :: rest) = none :: others := by
        rw [utf8Pieces]
        split
        · next found =>
            rw [head] at found
            cases found
        · exact ⟨_, rfl⟩
      rcases malformed with ⟨others, pieces_eq⟩
      rw [pieces_eq] at pieces
      cases chars <;> cases pieces

/-- A list of options has a list of values if none of them is missing. -/
theorem mapM_id_eq_some_iff {pieces : List (Option Char)} {chars : List Char} :
    pieces.mapM id = some chars ↔ pieces = chars.map some := by
  induction pieces generalizing chars with
  | nil => cases chars <;> simp
  | cons piece pieces ih =>
      rw [List.mapM_cons]
      cases piece with
      | none => cases chars <;> simp
      | some char =>
          cases chars with
          | nil => simp [Option.bind_eq_some_iff]
          | cons other others => simp [Option.bind_eq_some_iff, ih, and_comm]

/-- Bytes are read as a text exactly if they are the bytes of the text. -/
theorem ofUtf8?_eq_some_iff {bytes : List UInt8} {text : String} :
    ofUtf8? bytes = some text ↔ utf8 text = bytes := by
  rw [ofUtf8?, Option.map_eq_some_iff]
  simp only [mapM_id_eq_some_iff]
  constructor
  · rintro ⟨chars, pieces, rfl⟩
    rw [utf8, String.toList_ofList]
    exact encode_of_utf8Pieces pieces
  · rintro rfl
    exact ⟨text.toList, utf8Pieces_utf8 text, String.ofList_toList⟩

end TapeAdmin.Text
