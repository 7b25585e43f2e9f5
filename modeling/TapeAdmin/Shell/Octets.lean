import TapeAdmin.File.Path
import TapeAdmin.Text.Utf8

/-!
# Octets

The shell and the tools know bytes and no characters. They keep a text as a string with one
character for each byte, the one whose number the byte is, so that the signs of the shell can be
written as they look. This module converts between such strings and everything outside.
-/

namespace TapeAdmin.Shell

/-- A string whose characters stand for bytes. -/
abbrev Octets := String

namespace Octets

/-- The character that stands for a byte. -/
def char (byte : UInt8) : Char :=
  Char.ofNat byte.toNat

/-- The string that stands for bytes. -/
def ofBytes (bytes : List UInt8) : Octets :=
  String.ofList (bytes.map char)

/-- The bytes that a string stands for. -/
def bytes (octets : Octets) : List UInt8 :=
  octets.toList.map fun char => UInt8.ofNat char.toNat

/-- The string that stands for the bytes of a text. -/
def ofText (text : String) : Octets :=
  ofBytes (Text.utf8 text)

/-- The text that the bytes encode, with U+FFFD for each malformed part. -/
def text (octets : Octets) : String :=
  Text.ofUtf8Lossy octets.bytes

/-- The path that a string names. -/
def path (octets : Octets) : FilePath :=
  ⟨octets.text⟩

end Octets

end TapeAdmin.Shell
