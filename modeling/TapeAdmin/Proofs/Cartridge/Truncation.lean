import TapeAdmin.Proofs.Cartridge.Records

/-!
# Attribute data that is cut off or continued

Attribute data written as a whole is read back as a whole, whatever follows it. Where it is cut off
behind its length, the records read are those that lie completely in front of the cut.
-/

namespace TapeAdmin

namespace AttributeRecord

/-- A cut inside a record leaves bytes that are cut off. -/
theorem cutOff_take {record : AttributeRecord} (sized : record.Sized) {cut : Nat}
    (inside : cut < record.bytes.length) : CutOff (record.bytes.take cut) := by
  rw [length_bytes] at inside
  rcases Nat.lt_or_ge cut headerLength with header | data
  · apply Or.inl
    rw [List.length_take]
    omega
  · rcases Nat.exists_eq_add_of_le' data with ⟨read, rfl⟩
    have read_lt : read < record.data.length := by omega
    rw [bytes_eq]
    simp only [headerLength, List.take_succ_cons]
    rw [cutOff_header_iff, ofBigEndian_two sized, List.length_take]
    omega

/--
A cut through records leaves some whole records in front and a rest that is cut off. Records are
whole exactly when their last byte is in front of the cut.
-/
theorem exists_count_of_cut {records : List AttributeRecord}
    (sized : ∀ record ∈ records, record.Sized) (cut : Nat) :
    ∃ count ≤ records.length, ∃ rest,
      (records.flatMap bytes).take cut = (records.take count).flatMap bytes ++ rest ∧
        CutOff rest ∧
        ∀ number ≤ records.length,
          (((records.take number).flatMap bytes).length ≤ cut ↔ number ≤ count) := by
  induction records generalizing cut with
  | nil => exact ⟨0, Nat.le_refl 0, [], by simp, Or.inl (by decide), by simp⟩
  | cons record records ih =>
      have record_sized := sized record List.mem_cons_self
      have later_sized := fun other other_mem => sized other (List.mem_cons_of_mem record other_mem)
      rcases Nat.lt_or_ge cut record.bytes.length with inside | whole
      · refine ⟨0, Nat.zero_le _, record.bytes.take cut, ?_, cutOff_take record_sized inside, ?_⟩
        · rw [List.flatMap_cons, List.take_append_of_le_length (Nat.le_of_lt inside)]
          rfl
        · intro number _
          cases number with
          | zero => simp
          | succ number =>
              rw [List.take_succ_cons, List.flatMap_cons, List.length_append]
              omega
      · rcases ih later_sized (cut - record.bytes.length) with
          ⟨count, count_le, rest, parts, rest_cut, last⟩
        refine ⟨count + 1, Nat.succ_le_succ count_le, rest, ?_, rest_cut, ?_⟩
        · rw [List.flatMap_cons, List.take_append, List.take_of_length_le whole, parts,
            List.take_succ_cons, List.flatMap_cons, List.append_assoc]
        · intro number number_le
          cases number with
          | zero => simp
          | succ number =>
              have later := last number (Nat.le_of_succ_le_succ number_le)
              rw [List.take_succ_cons, List.flatMap_cons, List.length_append]
              omega

/-- The length in front of attribute data limits what is read. -/
theorem decode_toBigEndian_append {length : Nat} (small : length < 2 ^ 32) (body : List UInt8) :
    decode (Text.toBigEndian 4 length ++ body) = .ok (decodeBody (body.take length)) := by
  have length_eq : Text.ofBigEndian (Text.toBigEndian 4 length) = length := by
    apply Text.ofBigEndian_toBigEndian
    simpa using small
  simp only [Text.toBigEndian, List.nil_append, List.cons_append] at length_eq ⊢
  rw [decode, length_eq]

/-- Attribute data tells the length of what follows its first four bytes. -/
theorem ofBigEndian_take_encode {records : List AttributeRecord}
    (total : (records.flatMap bytes).length < 2 ^ 32) :
    Text.ofBigEndian ((encode records).take 4) + 4 = (encode records).length := by
  have front := Text.length_toBigEndian 4 (records.flatMap bytes).length
  have length_eq : Text.ofBigEndian (Text.toBigEndian 4 (records.flatMap bytes).length) =
      (records.flatMap bytes).length := by
    apply Text.ofBigEndian_toBigEndian
    simpa using total
  rw [encode, List.take_left' front, length_eq, List.length_append, front, Nat.add_comm]

end AttributeRecord

namespace Attribute

open AttributeRecord (Sized encode toAttribute)

variable {records : List AttributeRecord}

/-- Attribute data is read as a whole, whatever follows it. -/
theorem decode_encode_append (sized : ∀ record ∈ records, record.Sized)
    (total : (records.flatMap AttributeRecord.bytes).length < 2 ^ 32) (behind : List UInt8) :
    decode (encode records ++ behind) = .ok (records.map toAttribute) := by
  have nothing_left : AttributeRecord.CutOff [] := Or.inl (by decide)
  have read := AttributeRecord.decodeBody_flatMap_append sized nothing_left
  rw [List.append_nil] at read
  rw [decode, encode, List.append_assoc, AttributeRecord.decode_toBigEndian_append total,
    List.take_left, read]
  rfl

/-- Behind its length, attribute data may be cut off anywhere, also between two records. -/
theorem decode_encode_take (sized : ∀ record ∈ records, record.Sized)
    (total : (records.flatMap AttributeRecord.bytes).length < 2 ^ 32) {cut : Nat}
    (behind_length : 4 ≤ cut) :
    ∃ count ≤ records.length,
      decode ((encode records).take cut) = .ok ((records.take count).map toAttribute) ∧
        ∀ number ≤ records.length,
          (4 + ((records.take number).flatMap AttributeRecord.bytes).length ≤ cut ↔
            number ≤ count) := by
  rcases AttributeRecord.exists_count_of_cut sized (cut - 4) with
    ⟨count, count_le, rest, parts, rest_cut, last⟩
  refine ⟨count, count_le, ?_, ?_⟩
  · have front_sized : ∀ record ∈ records.take count, record.Sized :=
      fun record record_mem => sized record (List.mem_of_mem_take record_mem)
    have read := AttributeRecord.decodeBody_flatMap_append front_sized rest_cut
    have body_le : ((records.flatMap AttributeRecord.bytes).take (cut - 4)).length ≤
        (records.flatMap AttributeRecord.bytes).length := List.length_take_le' _ _
    rw [decode, encode, List.take_append, Text.length_toBigEndian,
      List.take_of_length_le (by rw [Text.length_toBigEndian]; exact behind_length),
      AttributeRecord.decode_toBigEndian_append total, List.take_of_length_le body_le, parts, read]
    rfl
  · intro number number_le
    have here := last number number_le
    omega

/-- Attribute data of one record is read back, and tells the length of what follows its length. -/
theorem decode_encode_one {record : AttributeRecord} (sized : record.Sized) :
    decode (encode [record]) = .ok [toAttribute record] ∧
      Text.ofBigEndian ((encode [record]).take 4) + 4 = (encode [record]).length := by
  have all_sized : ∀ other ∈ [record], other.Sized := by
    intro other other_mem
    rw [List.mem_singleton.mp other_mem]
    exact sized
  have total : ([record].flatMap AttributeRecord.bytes).length < 2 ^ 32 := by
    rw [Sized] at sized
    simp only [List.flatMap_cons, List.flatMap_nil, List.append_nil, AttributeRecord.length_bytes,
      AttributeRecord.headerLength]
    omega
  have read := decode_encode_append all_sized total []
  rw [List.append_nil] at read
  exact ⟨read, AttributeRecord.ofBigEndian_take_encode total⟩

/--
The reader is complete. Whatever follows attribute data, all of its records are read. Where the data
is cut off behind its length, the longest list of records from the front that lies completely in
front of the cut is read.
-/
theorem decode_of_continued_or_cut (sized : ∀ record ∈ records, record.Sized)
    (total : (records.flatMap AttributeRecord.bytes).length < 2 ^ 32) :
    (∀ behind, decode (encode records ++ behind) = .ok (records.map toAttribute)) ∧
      ∀ cut, 4 ≤ cut → cut ≤ (encode records).length →
        ∃ count ≤ records.length,
          decode ((encode records).take cut) = .ok ((records.take count).map toAttribute) ∧
            ∀ number ≤ records.length,
              (4 + ((records.take number).flatMap AttributeRecord.bytes).length ≤ cut ↔
                number ≤ count) :=
  ⟨decode_encode_append sized total,
    fun _ behind_length _ => decode_encode_take sized total behind_length⟩

theorem decode_of_continued_or_cut_two :
    (∀ record ∈ ([⟨0x0401, 129, [65, 66]⟩, ⟨0x0803, 2, []⟩] : List AttributeRecord), Sized record) ∧
      (([⟨0x0401, 129, [65, 66]⟩, ⟨0x0803, 2, []⟩] : List AttributeRecord).flatMap
        AttributeRecord.bytes).length < 2 ^ 32 ∧
      ∀ behind, decode (encode [⟨0x0401, 129, [65, 66]⟩, ⟨0x0803, 2, []⟩] ++ behind) =
        .ok [⟨0x0401, .ascii, true, [65, 66]⟩, ⟨0x0803, .text, false, []⟩] := by
  have sized : ∀ record ∈ ([⟨0x0401, 129, [65, 66]⟩, ⟨0x0803, 2, []⟩] : List AttributeRecord),
      Sized record := by
    simp [Sized]
  have total : (([⟨0x0401, 129, [65, 66]⟩, ⟨0x0803, 2, []⟩] : List AttributeRecord).flatMap
      AttributeRecord.bytes).length < 2 ^ 32 := by
    decide
  exact ⟨sized, total, (decode_of_continued_or_cut sized total).1⟩

end Attribute

end TapeAdmin
