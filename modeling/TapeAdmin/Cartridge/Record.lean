import TapeAdmin.Cartridge.Attribute

/-!
# Attribute records

The data that a drive returns for its attributes: four bytes with the length of what follows, then
one record for each attribute, of its identifier, a byte of flags, the length of its data, and the
data. The data may be cut off, and may be followed by bytes that do not belong to it. `encode`
writes such data and `decode` reads it; a record that is cut off is left out.
-/

namespace TapeAdmin

/-- One attribute as it is stored, with its byte of flags as it is. -/
structure AttributeRecord where
  id : UInt16
  flags : UInt8
  data : List UInt8
  deriving DecidableEq, Repr

namespace AttributeRecord

/-- The length of a record without its data. -/
def headerLength : Nat := 5

/-- A record as bytes; the length of the data takes two of them. -/
def bytes (record : AttributeRecord) : List UInt8 :=
  Text.toBigEndian 2 record.id.toNat ++ [record.flags] ++ Text.toBigEndian 2 record.data.length ++
    record.data

/-- What the flags of a record mean. -/
def toAttribute (record : AttributeRecord) : Attribute where
  id := record.id
  format := .ofFlags record.flags
  readOnly := 128 ≤ record.flags.toNat
  data := record.data

/-- The records as bytes, after the length of all of them in four bytes. -/
def encode (records : List AttributeRecord) : List UInt8 :=
  let body := records.flatMap bytes
  Text.toBigEndian 4 body.length ++ body

/-- The records at the start of a list of bytes, up to the first that is cut off. -/
def decodeBody : List UInt8 → List AttributeRecord
  | idHigh :: idLow :: flags :: lengthHigh :: lengthLow :: rest =>
    let length := Text.ofBigEndian [lengthHigh, lengthLow]
    if rest.length < length then []
    else
      { id := UInt16.ofNat (Text.ofBigEndian [idHigh, idLow])
        flags := flags
        data := rest.take length } :: decodeBody (rest.drop length)
  | _ => []
termination_by bytes => bytes.length
decreasing_by
  simp only [List.length_cons, List.length_drop]
  omega

end AttributeRecord

/-- The only fault of attribute data: it is too short to tell its own length. -/
structure AttributeDataFault where
  length : Nat
  deriving DecidableEq, Repr

/-- The wording of the fault. -/
def AttributeDataFault.message (fault : AttributeDataFault) : String :=
  "attribute data too short: " ++ toString fault.length ++ " bytes"

/-- Reads the records in attribute data. -/
def AttributeRecord.decode (bytes : List UInt8) :
    Except AttributeDataFault (List AttributeRecord) :=
  match bytes with
  | first :: second :: third :: fourth :: body =>
    .ok (decodeBody (body.take (Text.ofBigEndian [first, second, third, fourth])))
  | _ => .error ⟨bytes.length⟩

/-- Reads the attributes in attribute data. -/
def Attribute.decode (bytes : List UInt8) : Except AttributeDataFault (List Attribute) :=
  (AttributeRecord.decode bytes).map (List.map AttributeRecord.toAttribute)

end TapeAdmin
