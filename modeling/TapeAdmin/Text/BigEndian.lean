/-!
# Big-endian numbers

Whole numbers as bytes, the most significant byte first. Where a number is shown, its bytes are
gathered in a word of 64 bits.
-/

namespace TapeAdmin.Text

/-- The number that bytes denote after `value`. -/
def bigEndianFrom (value : Nat) (bytes : List UInt8) : Nat :=
  bytes.foldl (fun value byte => value * 256 + byte.toNat) value

/-- The number that bytes denote. -/
def ofBigEndian (bytes : List UInt8) : Nat :=
  bigEndianFrom 0 bytes

/-- A word after a byte has moved in from the right; what moves out on the left is gone. -/
def shiftIn (word : UInt64) (byte : UInt8) : UInt64 :=
  word <<< 8 ||| byte.toUInt64

/-- The word in which bytes are gathered. -/
def gather (bytes : List UInt8) : UInt64 :=
  bytes.foldl shiftIn 0

/-- The last `count` bytes of a number. -/
def toBigEndian : (count : Nat) → (value : Nat) → List UInt8
  | 0, _ => []
  | count + 1, value => toBigEndian count (value / 256) ++ [UInt8.ofNat value]

@[simp]
theorem length_toBigEndian (count value : Nat) : (toBigEndian count value).length = count := by
  induction count generalizing value with
  | zero => rfl
  | succ count ih => simp [toBigEndian, ih]

theorem bigEndianFrom_append (value : Nat) (first second : List UInt8) :
    bigEndianFrom value (first ++ second) = bigEndianFrom (bigEndianFrom value first) second := by
  simp [bigEndianFrom]

end TapeAdmin.Text
