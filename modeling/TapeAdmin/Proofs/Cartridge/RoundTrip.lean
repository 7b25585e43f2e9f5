import Mathlib.Data.List.Induction
import TapeAdmin.Cartridge.Request
import TapeAdmin.Proofs.Cartridge.Truncation
import TapeAdmin.Proofs.Result
import TapeAdmin.Proofs.Text.Digits
import TapeAdmin.Proofs.Text.Trimming
import TapeAdmin.Proofs.Text.Utf8

/-!
# Attributes that are written and read back

A value that is accepted for an attribute is filled up to the length of the attribute. Read back, it
is the one attribute in the data, and shows the value again: text without the padding at its end,
and hexadecimal digits as the number that they denote.
-/

namespace TapeAdmin

namespace AttributeFormat

theorem code_lt (format : AttributeFormat) : format.code.toNat < 128 := by
  cases format <;> decide

end AttributeFormat

namespace Attribute

theorem mem_writableTable {id : UInt16} {format : AttributeFormat} {length : Nat}
    (writable : writable? id = some (format, length)) :
    (id.toNat, format, length) ∈ writableTable := by
  rcases List.lookup_eq_some_iff.mp writable with ⟨before, behind, parts, _⟩
  rw [parts]
  exact List.mem_append_right before List.mem_cons_self

/-- What the host may write is short, and binary data is short enough to be shown as a number. -/
theorem length_of_writable? {id : UInt16} {format : AttributeFormat} {length : Nat}
    (writable : writable? id = some (format, length)) :
    length < 2 ^ 16 ∧ (format = .binary → 0 < length ∧ length ≤ 8) := by
  have table : ∀ entry ∈ writableTable,
      entry.2.2 < 2 ^ 16 ∧ (entry.2.1 = .binary → 0 < entry.2.2 ∧ entry.2.2 ≤ 8) := by
    decide
  exact table _ (mem_writableTable writable)

/-- Text that is filled up with padding shows without it. -/
theorem display_of_padded {item : Attribute} {value : String} {pad : Char} {byte : UInt8}
    {count : Nat} (kind : item.format ≠ .binary) (padding : isPadding pad = true)
    (encoded : String.utf8EncodeChar pad = [byte])
    (data_eq : item.data = Text.utf8 value ++ List.replicate count byte) :
    item.display = String.ofList (Text.dropEndWhile isPadding value.toList) := by
  have filled : item.data = Text.utf8 (value ++ String.ofList (List.replicate count pad)) := by
    rw [data_eq, Text.utf8_append]
    simp [Text.utf8, List.flatMap_replicate, encoded]
  have shown : item.display = String.ofList
      (Text.dropEndWhile isPadding (Text.ofUtf8Lossy item.data).toList) := by
    cases format_eq : item.format with
    | ascii => simp only [display, format_eq]
    | text => simp only [display, format_eq]
    | binary => exact absurd format_eq kind
  have dropped : ∀ char ∈ List.replicate count pad, isPadding char = true := by
    intro char char_mem
    rw [List.eq_of_mem_replicate char_mem]
    exact padding
  rw [shown, filled, Text.ofUtf8Lossy_utf8, String.toList_append, String.toList_ofList,
    Text.dropEndWhile_append_of_all dropped]

/-- Binary data of up to eight bytes shows as its number. -/
theorem display_of_number {item : Attribute} (kind : item.format = .binary)
    (nonempty : 0 < item.data.length) (short : item.data.length ≤ 8) :
    item.display = toString (Text.ofBigEndian item.data) := by
  have some_data : item.data ≠ [] := List.length_pos_iff.mp nonempty
  have shown : item.display = toString (Text.gather item.data) := by
    simp [display, kind, some_data, short]
  calc
    item.display = toString (Text.gather item.data).toNat := shown
    _ = toString (Text.ofBigEndian item.data) := by rw [Text.toNat_gather short]

end Attribute

namespace AttributeWrite

/-- Where a pair of digits is read first, both have a value and the others are read after them. -/
theorem hexPairs_cons_cons_ok {position : Nat} {high low : UInt8} {rest bytes : List UInt8}
    (read : hexPairs position (high :: low :: rest) = .ok bytes) :
    ∃ highValue lowValue data,
      Text.digitValue? 16 (Char.ofNat high.toNat) = some highValue ∧
        Text.digitValue? 16 (Char.ofNat low.toNat) = some lowValue ∧
        hexPairs (position + 2) rest = .ok data ∧
        bytes = UInt8.ofNat (highValue * 16 + lowValue) :: data := by
  rw [hexPairs] at read
  split at read
  · next highValue lowValue highDigit lowDigit =>
      cases later : hexPairs (position + 2) rest with
      | error fault => simp [later, bind, Except.bind] at read
      | ok data =>
          simp only [later, bind, Except.bind, pure, Except.pure, Except.ok.injEq] at read
          exact ⟨highValue, lowValue, data, highDigit, lowDigit, rfl, read.symm⟩
  · cases read
  · cases read

/--
Where pairs of digits are read, they are ASCII characters, and the bytes are the number that the
digits denote.
-/
theorem hexPairs_ok {position : Nat} {digits bytes : List UInt8} (even : digits.length % 2 = 0)
    (read : hexPairs position digits = .ok bytes) :
    (∀ digit ∈ digits, digit.toNat < 0x80) ∧
      ∀ value, Text.digitsFrom? 16 value (digits.map fun byte => Char.ofNat byte.toNat) =
        some (Text.bigEndianFrom value bytes) := by
  induction digits using List.twoStepInduction generalizing position bytes with
  | nil =>
      cases read
      simp
  | singleton digit => cases even
  | cons_cons high low rest ih =>
      rcases hexPairs_cons_cons_ok read with
        ⟨highValue, lowValue, data, highDigit, lowDigit, later, rfl⟩
      have rest_even : rest.length % 2 = 0 := by
        simp only [List.length_cons] at even
        omega
      rcases ih rest_even later with ⟨ascii, number⟩
      have high_ascii := Text.toNat_lt_of_digitValue? highDigit
      have low_ascii := Text.toNat_lt_of_digitValue? lowDigit
      rw [Text.toNat_charOfNat] at high_ascii low_ascii
      have high_lt := Text.lt_of_digitValue? highDigit
      have low_lt := Text.lt_of_digitValue? lowDigit
      refine ⟨by simp [high_ascii, low_ascii]; exact ascii, ?_⟩
      intro value
      have next : (value * 16 + highValue) * 16 + lowValue =
          value * 256 + (highValue * 16 + lowValue) := by omega
      rw [List.map_cons, List.map_cons, Text.digitsFrom?_cons highDigit,
        Text.digitsFrom?_cons lowDigit, number, Text.bigEndianFrom_cons,
        Text.toNat_ofDigits high_lt low_lt, next]

/-- The bytes that are read from hexadecimal digits are the number that the digits denote. -/
theorem hexData_ok {value : String} {data : List UInt8} (read : hexData value = .ok data) :
    Text.digitsFrom? 16 0 (withoutMarks value.toList) = some (Text.ofBigEndian data) := by
  have ascii_chars : ∀ text : String, (∀ digit ∈ Text.utf8 text, digit.toNat < 0x80) →
      (Text.utf8 text).map (fun byte => Char.ofNat byte.toNat) = text.toList :=
    fun _ ascii => (Text.toList_of_ascii ascii).symm
  rw [hexData] at read
  split at read
  · next odd =>
      rcases hexPairs_ok (by simp only [List.length_cons]; omega) read with ⟨ascii, number⟩
      have chars := ascii_chars _ fun digit digit_mem =>
        ascii digit (List.mem_cons_of_mem _ digit_mem)
      have number := number 0
      rw [List.map_cons, chars, String.toList_ofList] at number
      rw [← Text.digitsFrom?_zero_cons]
      exact number
  · next even =>
      rcases hexPairs_ok (by omega) read with ⟨ascii, number⟩
      have number := number 0
      rw [ascii_chars _ ascii, String.toList_ofList] at number
      exact number

theorem length_fill {length : Nat} {data : List UInt8} (fits : data.length ≤ length)
    (format : AttributeFormat) : (fill length data format).length = length := by
  cases format <;> simp [fill] <;> omega

/-- What an accepted value is written as. -/
theorem record_ok {write : AttributeWrite} {record : AttributeRecord}
    (accepted : write.record = .ok record) :
    ∃ format length data,
      Attribute.writable? write.id = some (format, length) ∧
        write.rawData format = .ok data ∧
        data.length ≤ length ∧
        record = { id := write.id, flags := format.code, data := fill length data format } := by
  rw [AttributeWrite.record] at accepted
  split at accepted
  · cases accepted
  · next format length writable =>
      cases raw : write.rawData format with
      | error fault => simp [raw, bind, Except.bind] at accepted
      | ok data =>
          simp only [raw, bind, Except.bind, pure, Except.pure] at accepted
          split at accepted
          · cases accepted
          · next fits =>
              cases accepted
              exact ⟨format, length, data, writable, raw, Nat.not_lt.mp fits, rfl⟩

/-- The data for an accepted value is that of one record, which is as long as the attribute. -/
theorem encode_ok {write : AttributeWrite} {bytes : List UInt8}
    (accepted : write.encode = .ok bytes) :
    ∃ record format length data,
      Attribute.writable? write.id = some (format, length) ∧
        write.rawData format = .ok data ∧
        (fill length data format).length = length ∧
        AttributeRecord.encode [record] = bytes ∧
        record.Sized ∧
        record = { id := write.id, flags := format.code, data := fill length data format } := by
  rcases map_eq_ok_iff.mp accepted with ⟨record, recorded, encoded⟩
  rcases record_ok recorded with ⟨format, length, data, writable, raw, fits, shape⟩
  have filled := length_fill fits format
  have length_lt := (Attribute.length_of_writable? writable).1
  refine ⟨record, format, length, data, writable, raw, filled, encoded, ?_, shape⟩
  rw [shape]
  exact Nat.lt_of_le_of_lt (Nat.le_of_eq filled) length_lt

/-- Text that is filled up shows as the value without the padding at its end. -/
theorem display_of_text {write : AttributeWrite} {item : Attribute} {data : List UInt8}
    {length : Nat} (raw : write.rawData item.format = .ok data)
    (filled : item.data = fill length data item.format) (kind : item.format ≠ .binary) :
    item.display =
      String.ofList (Text.dropEndWhile Attribute.isPadding write.value.toList) := by
  cases format_eq : item.format with
  | ascii =>
      rw [format_eq, rawData] at raw
      split at raw
      · next printable =>
          cases raw
          rw [format_eq] at filled
          exact Attribute.display_of_padded kind (by decide : Attribute.isPadding ' ' = true)
            (by decide) filled
      · cases raw
  | text =>
      rw [format_eq, rawData] at raw
      cases raw
      rw [format_eq] at filled
      exact Attribute.display_of_padded kind (by decide : Attribute.isPadding '\x00' = true)
        (by decide) filled
  | binary => exact absurd format_eq kind

/-- Binary data that is filled up shows as the number that the digits of the value denote. -/
theorem display_of_binary {write : AttributeWrite} {item : Attribute} {data : List UInt8}
    {length : Nat} (raw : write.rawData item.format = .ok data)
    (filled : item.data = fill length data item.format) (kind : item.format = .binary)
    (bounds : 0 < item.data.length ∧ item.data.length ≤ 8) :
    ∃ number,
      Text.digitsFrom? 16 0 (withoutMarks write.value.toList) = some number ∧
        item.display = toString number := by
  rw [kind] at raw filled
  refine ⟨_, hexData_ok raw, ?_⟩
  rw [Attribute.display_of_number kind bounds.1 bounds.2, filled, fill,
    Text.ofBigEndian_replicate_zero_append]

/--
A value that is accepted is read back as one attribute, of the kind and the length that belong to
its identifier, and is shown as it was given.
-/
theorem decode_of_accepted {write : AttributeWrite} {bytes : List UInt8}
    (accepted : write.encode = .ok bytes) :
    ∃ item format length,
      Attribute.writable? write.id = some (format, length) ∧
        Attribute.decode bytes = .ok [item] ∧
        item.id = write.id ∧
        item.format = format ∧
        item.readOnly = false ∧
        item.data.length = length ∧
        Text.ofBigEndian (bytes.take 4) + 4 = bytes.length ∧
        (format ≠ .binary →
          item.display =
            String.ofList (Text.dropEndWhile Attribute.isPadding write.value.toList)) ∧
        (format = .binary → ∃ number,
          Text.digitsFrom? 16 0 (withoutMarks write.value.toList) = some number ∧
            item.display = toString number) := by
  rcases encode_ok accepted with
    ⟨record, format, length, data, writable, raw, filled, rfl, sized, rfl⟩
  rcases Attribute.decode_encode_one sized with ⟨read, told_length⟩
  let record : AttributeRecord :=
    { id := write.id, flags := format.code, data := fill length data format }
  have format_eq : record.toAttribute.format = format := AttributeFormat.ofFlags_code format
  have writable_flags : record.toAttribute.readOnly = false := by
    have code_lt := AttributeFormat.code_lt format
    simp [record, AttributeRecord.toAttribute, code_lt]
  refine ⟨record.toAttribute, format, length, writable, read, rfl, format_eq, writable_flags,
    filled, told_length, ?_, ?_⟩
  · intro kind
    rw [← format_eq] at raw kind
    exact display_of_text raw (by rw [format_eq]; rfl) kind
  · intro kind
    have bounds := (Attribute.length_of_writable? writable).2 kind
    rw [← filled] at bounds
    rw [← format_eq] at raw kind
    exact display_of_binary raw (by rw [format_eq]; rfl) kind bounds

/-- Binary data of an odd number of digits behind two marks. -/
theorem decode_of_accepted_odd :
    (⟨0x0805, "0x0x7", 0⟩ : AttributeWrite).encode = .ok [0, 0, 0, 6, 8, 5, 0, 0, 1, 7] ∧
      ∃ item format length,
        Attribute.writable? 0x0805 = some (format, length) ∧
          Attribute.decode [0, 0, 0, 6, 8, 5, 0, 0, 1, 7] = .ok [item] ∧
          item.id = 0x0805 ∧
          item.format = format ∧
          item.readOnly = false ∧
          item.data.length = length ∧
          (format = .binary → ∃ number,
            Text.digitsFrom? 16 0 (withoutMarks "0x0x7".toList) = some number ∧
              item.display = toString number) := by
  have accepted : (⟨0x0805, "0x0x7", 0⟩ : AttributeWrite).encode =
      .ok [0, 0, 0, 6, 8, 5, 0, 0, 1, 7] := by
    decide
  rcases decode_of_accepted accepted with
    ⟨item, format, length, writable, read, id, kind, readOnly, filled, _, _, number⟩
  exact ⟨accepted, item, format, length, writable, read, id, kind, readOnly, filled, number⟩

end AttributeWrite

end TapeAdmin
