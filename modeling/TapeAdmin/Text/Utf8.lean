/-!
# UTF-8

Reading text out of bytes, either strictly or with a replacement character for each malformed part,
and writing text as bytes. A malformed part is the longest prefix of a valid sequence that is
present, or a single byte where no valid sequence starts.
-/

namespace TapeAdmin.Text

/-- The bytes of a text. -/
def utf8 (text : String) : List UInt8 :=
  text.toList.flatMap String.utf8EncodeChar

/-- How the bytes at the start of a list read: as a character, or as a malformed part. -/
inductive Utf8Head where
  | char (char : Char) (rest : List UInt8)
  | malformed (rest : List UInt8)

/-- A byte of the form `10xxxxxx`. -/
def isContinuation (byte : UInt8) : Bool :=
  0x80 ≤ byte && byte ≤ 0xBF

/-- The number in the low six bits of a continuation byte. -/
def continuationBits (byte : UInt8) : Nat :=
  byte.toNat % 64

/-- Whether a byte may follow a leading byte: it is a continuation byte, from `least` on behind the
leading byte `low`, and up to `greatest` behind the leading byte `high`. -/
def isSecond (low least high greatest first second : UInt8) : Bool :=
  if first = low then least ≤ second && second ≤ 0xBF
  else if first = high then 0x80 ≤ second && second ≤ greatest
  else isContinuation second

/-- Whether a byte may follow a leading byte of a three-byte sequence. -/
def secondOfThree (first second : UInt8) : Bool :=
  isSecond 0xE0 0xA0 0xED 0x9F first second

/-- Whether a byte may follow a leading byte of a four-byte sequence. -/
def secondOfFour (first second : UInt8) : Bool :=
  isSecond 0xF0 0x90 0xF4 0x8F first second

/-- Reads the character or malformed part that starts with `first`. -/
def utf8Head (first : UInt8) (rest : List UInt8) : Utf8Head :=
  if first < 0x80 then .char (Char.ofNat first.toNat) rest
  else if 0xC2 ≤ first && first ≤ 0xDF then
    match rest with
    | second :: tail =>
      if isContinuation second then
        .char (Char.ofNat ((first.toNat - 0xC0) * 64 + continuationBits second)) tail
      else .malformed rest
    | [] => .malformed rest
  else if 0xE0 ≤ first && first ≤ 0xEF then
    match rest with
    | second :: tail =>
      if secondOfThree first second then
        match tail with
        | third :: tail' =>
          if isContinuation third then
            .char (Char.ofNat (((first.toNat - 0xE0) * 64 + continuationBits second) * 64 +
              continuationBits third)) tail'
          else .malformed tail
        | [] => .malformed tail
      else .malformed rest
    | [] => .malformed rest
  else if 0xF0 ≤ first && first ≤ 0xF4 then
    match rest with
    | second :: tail =>
      if secondOfFour first second then
        match tail with
        | third :: tail' =>
          if isContinuation third then
            match tail' with
            | fourth :: tail'' =>
              if isContinuation fourth then
                .char (Char.ofNat ((((first.toNat - 0xF0) * 64 + continuationBits second) * 64 +
                  continuationBits third) * 64 + continuationBits fourth)) tail''
              else .malformed tail'
            | [] => .malformed tail'
          else .malformed tail
        | [] => .malformed tail
      else .malformed rest
    | [] => .malformed rest
  else .malformed rest

/-- The bytes that remain after the character or malformed part. -/
def Utf8Head.rest : Utf8Head → List UInt8
  | .char _ rest => rest
  | .malformed rest => rest

theorem utf8Head_rest_length_le (first : UInt8) (rest : List UInt8) :
    (utf8Head first rest).rest.length ≤ rest.length := by
  unfold utf8Head
  repeat' split
  all_goals simp_all [Utf8Head.rest] <;> omega

/-- The characters of a list of bytes, `none` standing for each malformed part. -/
def utf8Pieces : List UInt8 → List (Option Char)
  | [] => []
  | first :: rest =>
    match found : utf8Head first rest with
    | .char char rest' =>
      have : rest'.length ≤ rest.length := by
        simpa [found, Utf8Head.rest] using utf8Head_rest_length_le first rest
      some char :: utf8Pieces rest'
    | .malformed rest' =>
      have : rest'.length ≤ rest.length := by
        simpa [found, Utf8Head.rest] using utf8Head_rest_length_le first rest
      none :: utf8Pieces rest'
termination_by bytes => bytes.length
decreasing_by all_goals simp; omega

/-- The text that the bytes encode, if they encode one. -/
def ofUtf8? (bytes : List UInt8) : Option String :=
  ((utf8Pieces bytes).mapM id).map String.ofList

/-- The text of the bytes, with U+FFFD for each malformed part. -/
def ofUtf8Lossy (bytes : List UInt8) : String :=
  String.ofList ((utf8Pieces bytes).map fun piece => piece.getD '\ufffd')

end TapeAdmin.Text
