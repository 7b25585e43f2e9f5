import TapeAdmin.Cartridge.Attribute

/-!
# Attribute numbers

The operator names an attribute by its number, in base ten or, after `0x`, in base sixteen.
-/

namespace TapeAdmin.Attribute

/-- The largest number of an attribute. -/
def idLimit : Nat := UInt16.size - 1

/-- Reads the number of an attribute. -/
def readNumber (text : String) : Except Text.NumberFault Nat :=
  match text.toList with
  | '0' :: 'x' :: digits => Text.readBounded 16 idLimit (String.ofList digits)
  | '0' :: 'X' :: digits => Text.readBounded 16 idLimit (String.ofList digits)
  | _ => Text.readBounded 10 idLimit text

/-- Reads the number of an attribute; the reason of a refusal names the text. -/
def readId (text : String) : Except String UInt16 :=
  match readNumber text with
  | .ok number => .ok (UInt16.ofNat number)
  | .error fault => .error ("invalid attribute id '" ++ text ++ "': " ++ fault.message)

end TapeAdmin.Attribute
