import TapeAdmin.Cartridge.Record
import TapeAdmin.Proofs.Text.BigEndian

/-!
# Laws of the record reader

Any bytes are whole records, one after the other, and a rest that is cut off before the end of its
first record. The reader returns exactly these records: a whole record is read whatever follows it,
and nothing is read from a rest that is cut off. Everything else that is known of the reader follows
from these two laws.
-/

namespace TapeAdmin

namespace AttributeRecord

/--
Bytes that do not start with a whole record: there are fewer of them than a header takes, or the
header announces more data than follows it.
-/
def CutOff (bytes : List UInt8) : Prop :=
  bytes.length < headerLength ∨
    (bytes.drop headerLength).length < Text.ofBigEndian ((bytes.drop 3).take 2)

/-- The length of data takes two bytes. -/
def Sized (record : AttributeRecord) : Prop :=
  record.data.length < 2 ^ 16

theorem bytes_eq (record : AttributeRecord) :
    record.bytes =
      UInt8.ofNat (record.id.toNat / 256) :: UInt8.ofNat record.id.toNat :: record.flags ::
        UInt8.ofNat (record.data.length / 256) :: UInt8.ofNat record.data.length ::
          record.data := rfl

@[simp]
theorem length_bytes (record : AttributeRecord) :
    record.bytes.length = headerLength + record.data.length := by
  simp [bytes_eq, headerLength]
  omega

theorem ofBigEndian_two {value : Nat} (small : value < 2 ^ 16) :
    Text.ofBigEndian [UInt8.ofNat (value / 256), UInt8.ofNat value] = value := by
  rw [← Text.toBigEndian_two]
  apply Text.ofBigEndian_toBigEndian
  simpa using small

theorem ofBigEndian_two_lt (high low : UInt8) : Text.ofBigEndian [high, low] < 2 ^ 16 := by
  simpa using Text.ofBigEndian_lt [high, low]

theorem toBigEndian_id (high low : UInt8) :
    Text.toBigEndian 2 (UInt16.ofNat (Text.ofBigEndian [high, low])).toNat = [high, low] := by
  rw [UInt16.toNat_ofNat', Nat.mod_eq_of_lt (ofBigEndian_two_lt high low)]
  exact Text.toBigEndian_ofBigEndian [high, low]

/-- A whole record is read, whatever follows it. -/
theorem decodeBody_bytes_append {record : AttributeRecord} (sized : record.Sized)
    (rest : List UInt8) : decodeBody (record.bytes ++ rest) = record :: decodeBody rest := by
  have id_lt : record.id.toNat < 2 ^ 16 := record.id.toNat_lt
  rw [bytes_eq]
  simp only [List.cons_append]
  rw [decodeBody]
  simp only [ofBigEndian_two sized, ofBigEndian_two id_lt]
  simp [Nat.not_lt.mpr]

/-- Bytes that are not shorter than a header start with one. -/
theorem exists_header {bytes : List UInt8} (long : headerLength ≤ bytes.length) :
    ∃ idHigh idLow flags lengthHigh lengthLow rest,
      bytes = idHigh :: idLow :: flags :: lengthHigh :: lengthLow :: rest := by
  rcases bytes with _ | ⟨idHigh, _ | ⟨idLow, _ | ⟨flags, _ | ⟨lengthHigh, _ | ⟨lengthLow, rest⟩⟩⟩⟩⟩
  all_goals simp [headerLength] at long ⊢

/-- Behind a whole header, only the data can be cut off. -/
theorem cutOff_header_iff {idHigh idLow flags lengthHigh lengthLow : UInt8} {rest : List UInt8} :
    CutOff (idHigh :: idLow :: flags :: lengthHigh :: lengthLow :: rest) ↔
      rest.length < Text.ofBigEndian [lengthHigh, lengthLow] := by
  have whole : ¬ (idHigh :: idLow :: flags :: lengthHigh :: lengthLow :: rest).length < 5 := by
    simp only [List.length_cons]
    omega
  simp only [CutOff, headerLength, whole, false_or]
  rfl

/-- Nothing is read from bytes that are cut off. -/
theorem decodeBody_of_cutOff {bytes : List UInt8} (cut : CutOff bytes) : decodeBody bytes = [] := by
  rw [decodeBody.eq_def]
  split
  · next idHigh idLow flags lengthHigh lengthLow rest =>
      exact if_pos (cutOff_header_iff.mp cut)
  · rfl

/-- Five bytes and as much data as they announce are the bytes of a record. -/
theorem bytes_of_header {idHigh idLow flags lengthHigh lengthLow : UInt8} {data : List UInt8}
    (announced : data.length = Text.ofBigEndian [lengthHigh, lengthLow]) :
    bytes { id := UInt16.ofNat (Text.ofBigEndian [idHigh, idLow]), flags := flags, data := data } =
      idHigh :: idLow :: flags :: lengthHigh :: lengthLow :: data := by
  have length_bytes := Text.toBigEndian_ofBigEndian [lengthHigh, lengthLow]
  simp only [List.length_cons, List.length_nil, Nat.zero_add, Nat.reduceAdd] at length_bytes
  rw [bytes, toBigEndian_id, announced, length_bytes]
  rfl

/--
What the reader returns is what stands in front: the bytes are the records read, one after the
other, and a rest that is cut off.
-/
theorem decodeBody_exact (bytes : List UInt8) :
    (∀ record ∈ decodeBody bytes, record.Sized) ∧
      ∃ rest, bytes = (decodeBody bytes).flatMap AttributeRecord.bytes ++ rest ∧ CutOff rest := by
  induction bytes using decodeBody.induct with
  | case1 idHigh idLow flags lengthHigh lengthLow rest length announced =>
      have cut : CutOff (idHigh :: idLow :: flags :: lengthHigh :: lengthLow :: rest) :=
        cutOff_header_iff.mpr announced
      rw [decodeBody_of_cutOff cut]
      exact ⟨by simp, _, rfl, cut⟩
  | case2 idHigh idLow flags lengthHigh lengthLow rest length whole ih =>
      rcases ih with ⟨sized, remaining, later, cut⟩
      have data_length : (rest.take length).length = length := by
        rw [List.length_take]
        omega
      rw [decodeBody, if_neg whole]
      refine ⟨?_, remaining, ?_, cut⟩
      · intro record record_mem
        rcases List.mem_cons.mp record_mem with rfl | record_mem
        · change (rest.take length).length < 2 ^ 16
          rw [data_length]
          exact ofBigEndian_two_lt lengthHigh lengthLow
        · exact sized record record_mem
      · rw [List.flatMap_cons, bytes_of_header data_length, List.append_assoc, ← later]
        simp
  | case3 bytes short =>
      have cut : CutOff bytes := by
        rcases Nat.lt_or_ge bytes.length headerLength with shorter | long
        · exact Or.inl shorter
        · rcases exists_header long with
            ⟨idHigh, idLow, flags, lengthHigh, lengthLow, rest, parts⟩
          exact absurd parts (short idHigh idLow flags lengthHigh lengthLow rest)
      rw [decodeBody_of_cutOff cut]
      exact ⟨by simp, _, rfl, cut⟩

/-- Whole records in front of a rest that is cut off are read, and nothing else. -/
theorem decodeBody_flatMap_append {records : List AttributeRecord} {rest : List UInt8}
    (sized : ∀ record ∈ records, record.Sized) (cut : CutOff rest) :
    decodeBody (records.flatMap AttributeRecord.bytes ++ rest) = records := by
  induction records with
  | nil => exact decodeBody_of_cutOff cut
  | cons record records ih =>
      have record_sized := sized record List.mem_cons_self
      have later := ih fun other other_mem => sized other (List.mem_cons_of_mem _ other_mem)
      rw [List.flatMap_cons, List.append_assoc, decodeBody_bytes_append record_sized, later]

end AttributeRecord

end TapeAdmin
