import TapeAdmin.Proofs.Cartridge.Records
import Mathlib.Data.List.Forall2

/-!
# Exactness of the attribute reader

Attribute data tells its own length, and may be longer or shorter than it tells. Only the bytes
within that length count. The reader splits them into attributes and a rest that is cut off, and
this determines the attributes.

The reader takes bytes from the front of a list, so it cannot look beyond the end. `readByPlace?` is
the same reader on fixed bytes: it walks over places and looks up each byte at its place, and a
look-up outside the bytes would leave it without an answer. It always has one.
-/

namespace TapeAdmin

namespace AttributeRecord

/-- How many bytes the length of attribute data takes. -/
def lengthWidth : Nat := 4

/-- The length that attribute data tells of what follows. -/
def announcedLength (bytes : List UInt8) : Nat :=
  Text.ofBigEndian (bytes.take lengthWidth)

/-- The bytes that count: those after the length, up to the length or to the end. -/
def window (bytes : List UInt8) : List UInt8 :=
  (bytes.take (min bytes.length (lengthWidth + announcedLength bytes))).drop lengthWidth

theorem decode_of_short {bytes : List UInt8} (short : bytes.length < lengthWidth) :
    decode bytes = .error ⟨bytes.length⟩ := by
  match bytes with
  | [] | [_] | [_, _] | [_, _, _] => rfl
  | first :: second :: third :: fourth :: body =>
      simp only [List.length_cons, lengthWidth] at short
      omega

theorem decode_of_long {bytes : List UInt8} (long : lengthWidth ≤ bytes.length) :
    decode bytes = .ok (decodeBody (window bytes)) := by
  match bytes with
  | [] | [_] | [_, _] | [_, _, _] => simp [lengthWidth] at long
  | first :: second :: third :: fourth :: body =>
      have take_min :
          body.take (min body.length (Text.ofBigEndian [first, second, third, fourth])) =
            body.take (Text.ofBigEndian [first, second, third, fourth]) := by
        rw [Nat.min_comm, ← List.take_eq_take_min]
      simp only [decode, window, announcedLength, lengthWidth]
      simp [Nat.add_comm 4, take_min]

/-- The bytes from a place on, each looked up at its place. -/
def lookUp? (bytes : List UInt8) (place : Nat) : (count : Nat) → Option (List UInt8)
  | 0 => some []
  | count + 1 => do
    let byte ← bytes[place]?
    let later ← lookUp? bytes (place + 1) count
    some (byte :: later)

/-- The identifier, the flags and the length of the data of the record at a place. -/
def headerAt? (bytes : List UInt8) (place : Nat) : Option (UInt16 × UInt8 × Nat) := do
  let id ← lookUp? bytes place 2
  let flags ← bytes[place + 2]?
  let length ← lookUp? bytes (place + 3) 2
  some (UInt16.ofNat (Text.ofBigEndian id), flags, Text.ofBigEndian length)

/-- Reads records from a place on, up to the place `finish`. -/
def readFrom? (bytes : List UInt8) (finish place : Nat) : Option (List AttributeRecord) :=
  if place + headerLength ≤ finish then do
    let (id, flags, length) ← headerAt? bytes place
    let start := place + headerLength
    if finish < start + length then some []
    else
      let data ← lookUp? bytes start length
      let later ← readFrom? bytes finish (start + length)
      some ({ id := id, flags := flags, data := data } :: later)
  else some []
termination_by finish - place
decreasing_by
  simp only [headerLength] at *
  omega

/-- Reads the records in attribute data by place; `none` stands for a look-up outside the data. -/
def readByPlace? (bytes : List UInt8) :
    Option (Except AttributeDataFault (List AttributeRecord)) :=
  if bytes.length < lengthWidth then some (.error ⟨bytes.length⟩)
  else do
    let length ← lookUp? bytes 0 lengthWidth
    let finish := min bytes.length (lengthWidth + Text.ofBigEndian length)
    let records ← readFrom? bytes finish lengthWidth
    some (.ok records)

/-- A look-up of bytes finds those between what is before them and what is behind them. -/
theorem lookUp?_eq {bytes before middle behind : List UInt8} {place count : Nat}
    (parts : bytes = before ++ (middle ++ behind)) (place_eq : place = before.length)
    (count_eq : count = middle.length) : lookUp? bytes place count = some middle := by
  subst place count
  induction middle generalizing before with
  | nil => rfl
  | cons byte middle ih =>
      have here : bytes[before.length]? = some byte := by simp [parts]
      have later : lookUp? bytes (before ++ [byte]).length middle.length = some middle :=
        ih (by simpa using parts)
      rw [List.length_append, List.length_singleton] at later
      simp [lookUp?, here, later]

theorem headerAt?_eq {bytes before rest : List UInt8}
    {idHigh idLow flags lengthHigh lengthLow : UInt8}
    (parts : bytes = before ++ (idHigh :: idLow :: flags :: lengthHigh :: lengthLow :: rest)) :
    headerAt? bytes before.length =
      some (UInt16.ofNat (Text.ofBigEndian [idHigh, idLow]), flags,
        Text.ofBigEndian [lengthHigh, lengthLow]) := by
  have id : lookUp? bytes before.length 2 = some [idHigh, idLow] := lookUp?_eq parts rfl rfl
  have kind : bytes[before.length + 2]? = some flags := by simp [parts]
  have parts' : bytes =
      (before ++ [idHigh, idLow, flags]) ++ ([lengthHigh, lengthLow] ++ rest) := by
    simpa using parts
  have length : lookUp? bytes (before.length + 3) 2 = some [lengthHigh, lengthLow] :=
    lookUp?_eq parts' (by simp) rfl
  simp [headerAt?, id, kind, length]

/-- A whole record is read at its place. -/
theorem readFrom?_of_record {bytes before behind : List UInt8} {record : AttributeRecord}
    {finish : Nat} (sized : record.Sized) (parts : bytes = before ++ (record.bytes ++ behind))
    (room : (before ++ record.bytes).length ≤ finish) :
    readFrom? bytes finish before.length =
      (readFrom? bytes finish (before ++ record.bytes).length).map (record :: ·) := by
  rw [List.length_append, length_bytes] at room ⊢
  have header := headerAt?_eq (by simpa only [bytes_eq, List.cons_append] using parts)
  have id_eq : UInt16.ofNat (Text.ofBigEndian
      [UInt8.ofNat (record.id.toNat / 256), UInt8.ofNat record.id.toNat]) = record.id := by
    rw [ofBigEndian_two record.id.toNat_lt]
    exact UInt16.ofNat_toNat
  rw [id_eq, ofBigEndian_two sized] at header
  have data_parts :
      bytes = before ++ record.bytes.take headerLength ++ (record.data ++ behind) := by
    rw [parts, bytes_eq]
    simp [headerLength]
  have data : lookUp? bytes (before.length + headerLength) record.data.length =
      some record.data := by
    apply lookUp?_eq data_parts _ rfl
    simp [headerLength]
  have fits : ¬ finish < before.length + headerLength + record.data.length := by omega
  rw [readFrom?, if_pos (by omega)]
  simp only [header, data, Option.bind_eq_bind, Option.bind_some, if_neg fits]
  rw [← Nat.add_assoc]
  exact Option.map_eq_bind.symm

/-- The reading ends at bytes that are cut off. -/
theorem readFrom?_of_cutOff {bytes before rest behind : List UInt8} (cut : CutOff rest)
    (parts : bytes = before ++ (rest ++ behind)) :
    readFrom? bytes (before ++ rest).length before.length = some [] := by
  rw [readFrom?]
  split
  · next room =>
      have long : headerLength ≤ rest.length := by
        rw [List.length_append] at room
        omega
      rcases exists_header long with
        ⟨idHigh, idLow, flags, lengthHigh, lengthLow, data, rfl⟩
      have header := headerAt?_eq (by simpa only [List.cons_append] using parts)
      have announced := cutOff_header_iff.mp cut
      have past : (before ++ idHigh :: idLow :: flags :: lengthHigh :: lengthLow :: data).length <
          before.length + headerLength + Text.ofBigEndian [lengthHigh, lengthLow] := by
        simp only [List.length_append, List.length_cons, headerLength]
        omega
      simp only [header, Option.bind_eq_bind, Option.bind_some, if_pos past]
  · rfl

theorem readFrom?_of_records {bytes before rest behind : List UInt8}
    {records : List AttributeRecord} (sized : ∀ record ∈ records, record.Sized)
    (cut : CutOff rest)
    (parts : bytes = before ++ (records.flatMap AttributeRecord.bytes ++ rest ++ behind)) :
    readFrom? bytes (before ++ (records.flatMap AttributeRecord.bytes ++ rest)).length
      before.length = some records := by
  induction records generalizing before with
  | nil => exact readFrom?_of_cutOff cut parts
  | cons record records ih =>
      have record_sized := sized record List.mem_cons_self
      have later := ih (fun other other_mem => sized other (List.mem_cons_of_mem _ other_mem))
        (by simpa using parts : bytes = before ++ record.bytes ++ _)
      rw [readFrom?_of_record record_sized (by simpa using parts) (by simp)]
      simpa using later

/-- Attribute data is its length, the bytes that count, and bytes that do not. -/
theorem bytes_parts {bytes : List UInt8} (long : lengthWidth ≤ bytes.length) :
    bytes = bytes.take lengthWidth ++
      (window bytes ++ bytes.drop (min bytes.length (lengthWidth + announcedLength bytes))) := by
  have within : lengthWidth ≤ min bytes.length (lengthWidth + announcedLength bytes) := by omega
  have front : bytes.take lengthWidth =
      (bytes.take (min bytes.length (lengthWidth + announcedLength bytes))).take lengthWidth := by
    rw [List.take_take, Nat.min_eq_left within]
  rw [front, window, ← List.append_assoc, List.take_append_drop, List.take_append_drop]

theorem length_window {bytes : List UInt8} (long : lengthWidth ≤ bytes.length) :
    (bytes.take lengthWidth ++ window bytes).length =
      min bytes.length (lengthWidth + announcedLength bytes) := by
  rw [window, List.length_append, List.length_drop, List.length_take, List.length_take]
  omega

/-- Reading by place finds what the reader finds, and never looks outside the bytes. -/
theorem readByPlace?_eq (bytes : List UInt8) : readByPlace? bytes = some (decode bytes) := by
  rcases Nat.lt_or_ge bytes.length lengthWidth with short | long
  · rw [readByPlace?, if_pos short, decode_of_short short]
  · have parts := bytes_parts long
    have front_length : (bytes.take lengthWidth).length = lengthWidth := by
      rw [List.length_take, Nat.min_eq_left long]
    have length : lookUp? bytes 0 lengthWidth = some (bytes.take lengthWidth) :=
      lookUp?_eq (parts.trans (List.nil_append _).symm) rfl front_length.symm
    rcases decodeBody_exact (window bytes) with ⟨sized, rest, whole, cut⟩
    rw [whole] at parts
    have records := readFrom?_of_records sized cut parts
    rw [← whole, length_window long, front_length] at records
    rw [readByPlace?, if_neg (Nat.not_lt.mpr long), decode_of_long long, length]
    simp only [Option.bind_eq_bind, Option.bind_some]
    rw [← announcedLength, records]
    rfl

end AttributeRecord

namespace Attribute

/-- An attribute as it is stored, with a byte of flags. -/
def storedBytes (item : Attribute) (flags : UInt8) : List UInt8 :=
  Text.toBigEndian 2 item.id.toNat ++ [flags] ++ Text.toBigEndian 2 item.data.length ++ item.data

/--
A byte of flags that fits an attribute: the low two bits tell the format, and the top bit tells
whether the attribute is read only.
-/
structure Flagged (item : Attribute) (flags : UInt8) : Prop where
  binary : item.format = .binary ↔ flags.toNat % 4 = 0 ∨ flags.toNat % 4 = 3
  ascii : item.format = .ascii ↔ flags.toNat % 4 = 1
  text : item.format = .text ↔ flags.toNat % 4 = 2
  readOnly : item.readOnly = flags.toNat.testBit 7

/-- The flags of a record fit the attribute that it means. -/
theorem flagged_toAttribute (record : AttributeRecord) :
    record.toAttribute.Flagged record.flags := by
  have low : record.flags.toNat % 4 = 0 ∨ record.flags.toNat % 4 = 1 ∨
      record.flags.toNat % 4 = 2 ∨ record.flags.toNat % 4 = 3 := by omega
  have top : record.toAttribute.readOnly = record.flags.toNat.testBit 7 := by
    have flags_lt : record.flags.toNat < 256 := record.flags.toNat_lt
    rw [Nat.testBit_eq_decide_div_mod_eq]
    apply decide_eq_decide.mpr
    omega
  refine ⟨?_, ?_, ?_, top⟩
  all_goals
    simp only [AttributeRecord.toAttribute, AttributeFormat.ofFlags]
    rcases low with low | low | low | low <;> simp [low]

/-- The records as stored bytes of the attributes that they mean. -/
theorem storedBytes_toAttribute (records : List AttributeRecord) :
    (List.zipWith storedBytes (records.map AttributeRecord.toAttribute)
      (records.map AttributeRecord.flags)).flatten = records.flatMap AttributeRecord.bytes := by
  rw [List.zipWith_map, List.zipWith_self]
  rfl

/--
The reader is exact. It fails only on data too short to tell its own length, and never looks outside
the data. Otherwise the bytes that count are the attributes as they are stored, each with a byte of
flags that fits it, and a rest without another whole one.
-/
theorem decode_exact (bytes : List UInt8) :
    AttributeRecord.readByPlace? bytes = some (AttributeRecord.decode bytes) ∧
      (∀ fault, decode bytes = .error fault ↔ bytes.length < 4 ∧ fault = ⟨bytes.length⟩) ∧
      (4 ≤ bytes.length → ∃ items flags rest,
        decode bytes = .ok items ∧
          List.Forall₂ Flagged items flags ∧
          (∀ item ∈ items, item.data.length < 2 ^ 16) ∧
          AttributeRecord.window bytes = (List.zipWith storedBytes items flags).flatten ++ rest ∧
          AttributeRecord.CutOff rest) := by
  refine ⟨AttributeRecord.readByPlace?_eq bytes, ?_, ?_⟩
  · intro fault
    rcases Nat.lt_or_ge bytes.length 4 with short | long
    · rw [decode, AttributeRecord.decode_of_short short]
      simp [Except.map, short, eq_comm]
    · rw [decode, AttributeRecord.decode_of_long long]
      simp [Except.map, Nat.not_lt.mpr long]
  · intro long
    rcases AttributeRecord.decodeBody_exact (AttributeRecord.window bytes) with
      ⟨sized, rest, whole, cut⟩
    have read := congrArg (Except.map (List.map AttributeRecord.toAttribute))
      (AttributeRecord.decode_of_long long)
    rw [← storedBytes_toAttribute] at whole
    refine ⟨_, _, rest, read, ?_, ?_, whole, cut⟩
    · rw [List.forall₂_map_left_iff, List.forall₂_map_right_iff, List.forall₂_same]
      intro record _
      exact flagged_toAttribute record
    · intro item item_mem
      rcases List.mem_map.mp item_mem with ⟨record, record_mem, rfl⟩
      exact sized record record_mem

/-- A record that ends with the bytes that count is the last one. -/
theorem decode_exact_boundary :
    4 ≤ ([0, 0, 0, 6, 4, 1, 128, 0, 1, 65, 0] : List UInt8).length ∧
      ∃ items flags rest,
        decode [0, 0, 0, 6, 4, 1, 128, 0, 1, 65, 0] = .ok items ∧
          List.Forall₂ Flagged items flags ∧
          (∀ item ∈ items, item.data.length < 2 ^ 16) ∧
          AttributeRecord.window [0, 0, 0, 6, 4, 1, 128, 0, 1, 65, 0] =
            (List.zipWith storedBytes items flags).flatten ++ rest ∧
          AttributeRecord.CutOff rest :=
  ⟨by decide, (decode_exact [0, 0, 0, 6, 4, 1, 128, 0, 1, 65, 0]).2.2 (by decide)⟩

end Attribute

end TapeAdmin
