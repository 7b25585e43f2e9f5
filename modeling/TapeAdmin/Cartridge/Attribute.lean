import TapeAdmin.Text.Blank
import TapeAdmin.Text.BigEndian
import TapeAdmin.Text.Digits
import TapeAdmin.Text.Utf8

/-!
# Cartridge attributes

The memory chip of a cartridge holds attributes, each with a 16-bit identifier, a format and some
bytes of data. This module has the attributes, their names, and which of them the host may write.
-/

namespace TapeAdmin

/-- How the data of an attribute reads. -/
inductive AttributeFormat where
  | binary
  | ascii
  | text
  deriving DecidableEq, Repr

namespace AttributeFormat

/-- The number of a format. -/
def code : AttributeFormat → UInt8
  | .binary => 0
  | .ascii => 1
  | .text => 2

/-- The format in the low two bits of a flags byte; the reserved number counts as binary. -/
def ofFlags (flags : UInt8) : AttributeFormat :=
  match flags.toNat % 4 with
  | 1 => .ascii
  | 2 => .text
  | _ => .binary

/-- The word for a format. -/
def word : AttributeFormat → String
  | .binary => "BINARY"
  | .ascii => "ASCII"
  | .text => "TEXT"

@[simp]
theorem ofFlags_code (format : AttributeFormat) : ofFlags format.code = format := by
  cases format <;> rfl

end AttributeFormat

/-- An attribute as it was read. -/
structure Attribute where
  id : UInt16
  format : AttributeFormat
  readOnly : Bool
  data : List UInt8
  deriving DecidableEq, Repr

namespace Attribute

/-- The names of the known attributes, by identifier. -/
def names : List (Nat × String) := [
  (0x0000, "Remaining Capacity In Partition (MiB)"),
  (0x0001, "Maximum Capacity In Partition (MiB)"),
  (0x0002, "TapeAlert Flags"),
  (0x0003, "Load Count"),
  (0x0004, "MAM Space Remaining"),
  (0x0005, "Assigning Organization"),
  (0x0006, "Format Density Code"),
  (0x0007, "Initialization Count"),
  (0x0220, "Total MiB Written In Medium Life"),
  (0x0221, "Total MiB Read In Medium Life"),
  (0x0222, "Total MiB Written In Current Load"),
  (0x0223, "Total MiB Read In Current Load"),
  (0x0400, "Medium Manufacturer"),
  (0x0401, "Medium Serial Number"),
  (0x0402, "Medium Length"),
  (0x0403, "Medium Width"),
  (0x0404, "Medium Assigning Organization"),
  (0x0405, "Medium Density Code"),
  (0x0406, "Medium Manufacture Date"),
  (0x0407, "MAM Capacity"),
  (0x0408, "Medium Type"),
  (0x0409, "Medium Type Information"),
  (0x0800, "Application Vendor"),
  (0x0801, "Application Name"),
  (0x0802, "Application Version"),
  (0x0803, "User Medium Text Label"),
  (0x0804, "Date And Time Last Written"),
  (0x0805, "Text Localization Identifier"),
  (0x0806, "Barcode"),
  (0x0807, "Owning Host Textual Name"),
  (0x0808, "Media Pool"),
  (0x080B, "Application Format Version")]

/-- The name of a known attribute. -/
def name? (id : UInt16) : Option String :=
  names.lookup id.toNat

/-- The name of an attribute. -/
def name (item : Attribute) : String :=
  (name? item.id).getD "Unknown attribute"

/-- The attributes that the host may write, with their formats and lengths. -/
def writableTable : List (Nat × AttributeFormat × Nat) := [
  (0x0800, .ascii, 8),
  (0x0801, .ascii, 32),
  (0x0802, .ascii, 8),
  (0x0803, .text, 160),
  (0x0804, .ascii, 12),
  (0x0805, .binary, 1),
  (0x0806, .ascii, 32)]

/-- The format and the length of an attribute that the host may write. -/
def writable? (id : UInt16) : Option (AttributeFormat × Nat) :=
  writableTable.lookup id.toNat

/-- An identifier as four hexadecimal digits in capitals. -/
def idDigits (id : UInt16) : String :=
  String.ofList ([4096, 256, 16, 1].map fun weight => Text.hexDigitUpper (id.toNat / weight % 16))

/-- An identifier in messages. -/
def idText (id : UInt16) : String :=
  "0x" ++ idDigits id

/-- A character that fills up text at its end. -/
def isPadding (char : Char) : Bool :=
  char == ' ' || char == '\x00'

/--
The value of an attribute in words. Text loses the padding at its end. Binary data of up to eight
bytes is a number; longer or empty data is shown digit by digit.
-/
def display (item : Attribute) : String :=
  match item.format with
  | .ascii | .text =>
    String.ofList (Text.dropEndWhile isPadding (Text.ofUtf8Lossy item.data).toList)
  | .binary =>
    if !item.data.isEmpty && item.data.length ≤ 8 then
      toString (Text.gather item.data)
    else Text.hexBytes item.data

end Attribute

end TapeAdmin
