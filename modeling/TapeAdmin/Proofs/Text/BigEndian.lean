import Mathlib.Data.List.Induction
import Mathlib.Data.Nat.Digits.Defs
import TapeAdmin.Text.BigEndian

/-!
# Laws of big-endian numbers

Bytes and the number that they denote determine each other once the width is known, a number of some
width stays below the corresponding power of 256, and zeros in front count for nothing. A word of 64
bits has room for eight bytes: as long as there are no more, no bit is lost while they move in.
-/

namespace TapeAdmin.Text

@[simp]
theorem bigEndianFrom_nil (value : Nat) : bigEndianFrom value [] = value := rfl

@[simp]
theorem bigEndianFrom_cons (value : Nat) (byte : UInt8) (bytes : List UInt8) :
    bigEndianFrom value (byte :: bytes) = bigEndianFrom (value * 256 + byte.toNat) bytes := rfl

theorem ofBigEndian_concat (bytes : List UInt8) (byte : UInt8) :
    ofBigEndian (bytes ++ [byte]) = ofBigEndian bytes * 256 + byte.toNat := by
  simp [ofBigEndian, bigEndianFrom_append]

/-- A number of so many bytes stays below the power of 256 with that exponent. -/
theorem ofBigEndian_lt (bytes : List UInt8) : ofBigEndian bytes < 256 ^ bytes.length := by
  induction bytes using List.reverseRecOn with
  | nil => simp [ofBigEndian]
  | append_singleton bytes byte ih =>
      have byte_lt := byte.toNat_lt
      rw [ofBigEndian_concat, List.length_append, List.length_singleton, Nat.pow_succ]
      omega

theorem ofBigEndian_lt_of_length_le {bytes : List UInt8} (width : Nat)
    (short : bytes.length ≤ width) : ofBigEndian bytes < 256 ^ width :=
  Nat.lt_of_lt_of_le (ofBigEndian_lt bytes) (Nat.pow_le_pow_right (by decide) short)

/-- Writing the number that bytes denote gives the bytes back. -/
theorem toBigEndian_ofBigEndian (bytes : List UInt8) :
    toBigEndian bytes.length (ofBigEndian bytes) = bytes := by
  induction bytes using List.reverseRecOn with
  | nil => rfl
  | append_singleton bytes byte ih =>
      have byte_lt := byte.toNat_lt
      have front : (ofBigEndian bytes * 256 + byte.toNat) / 256 = ofBigEndian bytes := by omega
      have last : UInt8.ofNat (ofBigEndian bytes * 256 + byte.toNat) = byte := by
        apply UInt8.toNat_inj.mp
        rw [UInt8.toNat_ofNat']
        omega
      rw [List.length_append, List.length_singleton, ofBigEndian_concat, toBigEndian, front, last,
        ih]

/-- Reading the last bytes of a number gives it back if it is small enough for them. -/
theorem ofBigEndian_toBigEndian {count value : Nat} (small : value < 256 ^ count) :
    ofBigEndian (toBigEndian count value) = value := by
  induction count generalizing value with
  | zero =>
      have none_left : value = 0 := by simpa using small
      subst none_left
      rfl
  | succ count ih =>
      have shorter : value / 256 < 256 ^ count :=
        Nat.div_lt_of_lt_mul (by rwa [Nat.pow_succ, Nat.mul_comm] at small)
      rw [toBigEndian, ofBigEndian_concat, ih shorter, UInt8.toNat_ofNat']
      omega

/-- Two bytes of a number. -/
theorem toBigEndian_two (value : Nat) :
    toBigEndian 2 value = [UInt8.ofNat (value / 256), UInt8.ofNat value] := rfl

/-- Zeros in front do not change a number. -/
theorem ofBigEndian_replicate_zero_append (count : Nat) (bytes : List UInt8) :
    ofBigEndian (List.replicate count 0 ++ bytes) = ofBigEndian bytes := by
  induction count with
  | zero => rfl
  | succ count ih => simpa [ofBigEndian, List.replicate_succ] using ih

/-- Bytes are the digits of their number in base 256, the last of them counting once. -/
theorem ofBigEndian_eq_ofDigits (bytes : List UInt8) :
    ofBigEndian bytes = Nat.ofDigits 256 (bytes.map UInt8.toNat).reverse := by
  induction bytes using List.reverseRecOn with
  | nil => rfl
  | append_singleton bytes byte ih =>
      rw [ofBigEndian_concat, List.map_append, List.reverse_append, List.map_singleton,
        List.reverse_singleton, List.singleton_append, Nat.ofDigits_cons, ← ih]
      omega

/-- Bytes of one length are told apart by their numbers. -/
theorem eq_of_ofBigEndian_eq {bytes others : List UInt8} (length_eq : bytes.length = others.length)
    (same : ofBigEndian bytes = ofBigEndian others) : bytes = others := by
  rw [← toBigEndian_ofBigEndian bytes, ← toBigEndian_ofBigEndian others, length_eq, same]

/-! ### Words of 64 bits -/

/--
No bit is lost where a byte moves into a word: each bit of the word is found eight places further
on, and each bit of the byte where it was.
-/
structure KeepsBits (word : UInt64) (byte : UInt8) : Prop where
  word_bit : ∀ place, (shiftIn word byte).toNat.testBit (place + 8) = word.toNat.testBit place
  byte_bit : ∀ place < 8, (shiftIn word byte).toNat.testBit place = byte.toNat.testBit place

theorem toNat_shiftIn_eq_or (word : UInt64) (byte : UInt8) :
    (shiftIn word byte).toNat = word.toNat <<< 8 % 2 ^ 64 ||| byte.toNat := by
  rw [shiftIn, UInt64.toNat_or, UInt64.toNat_shiftLeft, UInt8.toNat_toUInt64]
  rfl

theorem testBit_shiftIn (word : UInt64) (byte : UInt8) (place : Nat) :
    (shiftIn word byte).toNat.testBit place =
      (decide (place < 64) && (decide (8 ≤ place) && word.toNat.testBit (place - 8)) ||
        byte.toNat.testBit place) := by
  rw [toNat_shiftIn_eq_or, Nat.testBit_or, Nat.testBit_mod_two_pow, Nat.testBit_shiftLeft]

theorem testBit_eq_false_of_lt {number bound place : Nat} (small : number < 2 ^ bound)
    (beyond : bound ≤ place) : number.testBit place = false :=
  Nat.testBit_lt_two_pow (Nat.lt_of_lt_of_le small (Nat.pow_le_pow_right (by decide) beyond))

/-- Bits are kept exactly if the eight places on the left of the word are free. -/
theorem keepsBits_iff {word : UInt64} {byte : UInt8} :
    KeepsBits word byte ↔ word.toNat < 2 ^ 56 := by
  constructor
  · intro keeps
    apply Nat.lt_pow_two_of_testBit
    intro place beyond
    rw [← keeps.word_bit, testBit_shiftIn, testBit_eq_false_of_lt byte.toNat_lt (by omega)]
    simp [Nat.not_lt.mpr (show 64 ≤ place + 8 by omega)]
  · intro free
    refine ⟨fun place => ?_, fun place within => ?_⟩
    · rw [testBit_shiftIn, testBit_eq_false_of_lt byte.toNat_lt (by omega), Nat.add_sub_cancel,
        Bool.or_false]
      rcases Nat.lt_or_ge place 56 with inside | beyond
      · simp [show place + 8 < 64 by omega]
      · simp [testBit_eq_false_of_lt free beyond]
    · simp [testBit_shiftIn, Nat.not_le.mpr within]

/-- A byte that moves into a word with room for it is the next digit of the number. -/
theorem toNat_shiftIn_of_lt {word : UInt64} (free : word.toNat < 2 ^ 56) (byte : UInt8) :
    (shiftIn word byte).toNat = word.toNat * 256 + byte.toNat := by
  have room : word.toNat <<< 8 < 2 ^ 64 := by
    rw [Nat.shiftLeft_eq]
    omega
  calc
    (shiftIn word byte).toNat = word.toNat <<< 8 % 2 ^ 64 ||| byte.toNat :=
      toNat_shiftIn_eq_or word byte
    _ = word.toNat <<< 8 + byte.toNat := by
      rw [Nat.mod_eq_of_lt room, Nat.shiftLeft_add_eq_or_of_lt byte.toNat_lt]
    _ = word.toNat * 256 + byte.toNat := by rw [Nat.shiftLeft_eq]

theorem gather_concat (bytes : List UInt8) (byte : UInt8) :
    gather (bytes ++ [byte]) = shiftIn (gather bytes) byte := by
  simp [gather]

/-- Up to eight bytes are gathered into the number that they denote. -/
theorem toNat_gather {bytes : List UInt8} (short : bytes.length ≤ 8) :
    (gather bytes).toNat = ofBigEndian bytes := by
  -- The last byte finds its place free, because those in front of it are seven at most.
  induction bytes using List.reverseRecOn with
  | nil => rfl
  | append_singleton bytes byte ih =>
      rw [List.length_append, List.length_singleton] at short
      have front := ih (by omega)
      have free : (gather bytes).toNat < 2 ^ 56 := by
        rw [front]
        exact ofBigEndian_lt_of_length_le 7 (by omega)
      rw [gather_concat, toNat_shiftIn_of_lt free, ofBigEndian_concat, front]

/-- While up to eight bytes are gathered, every one of them moves in without loss. -/
theorem keepsBits_gather {before behind : List UInt8} {byte : UInt8}
    (short : (before ++ byte :: behind).length ≤ 8) : KeepsBits (gather before) byte := by
  rw [List.length_append, List.length_cons] at short
  rw [keepsBits_iff, toNat_gather (by omega)]
  exact ofBigEndian_lt_of_length_le 7 (by omega)

end TapeAdmin.Text
