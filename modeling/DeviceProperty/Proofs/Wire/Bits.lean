/-
**Ranges of bits as numbers.**

A range of bits is read and written one bit after another.  This module says what becomes of every
single bit of the record: a write reaches the bits of its range, as far as the record has them, and
leaves all others alone.  Reading a range is a division of the number that the record holds, and
writing it above everything written before is an addition to that number.

So there are two ways to a number in a record.  A field takes whole bytes from a byte on, and its
code is the number of these bytes, cut off at the width.  A range that begins with a byte is the
field that begins there: both read the same bits in the same order, and where the bytes of the field
were clear before, writing the range leaves the same bytes as writing the field, with its padding.

Main results:

* `DeviceProperty.bitOf_insertBits`, `DeviceProperty.testBit_extractBits` — **every bit** of a
  record after a write, and of a number that is read;
* `DeviceProperty.extractBits_eq` — reading a range divides the number of the record;
* `DeviceProperty.natOfBytes_insertBits` — writing a range above all others adds to it;
* `DeviceProperty.natOfBytes_injective`, `DeviceProperty.eq_of_bitOf_eq` — a record of known length
  is its number, and its bits;
* `DeviceProperty.Field.read_write_bitwise` — **a field is a range of bits**.
-/

import Mathlib
import DeviceProperty.Proofs.Wire.Field

set_option relaxedAutoImplicit false
set_option autoImplicit false

namespace DeviceProperty

/-! ### One bit -/

theorem testBit_setBitOfByte (byte : UInt8) {index : ℕ} (h : index < 8) (bit : Bool) (i : ℕ) :
    (setBitOfByte byte index bit).toNat.testBit i =
      if i = index then bit else byte.toNat.testBit i := by
  have weight : (UInt8.ofNat (twoPow index)).toBitVec = BitVec.twoPow 8 index := by
    apply BitVec.eq_of_toNat_eq
    rw [UInt8.toNat_toBitVec, UInt8.toNat_ofNat', BitVec.toNat_twoPow, twoPow_eq]
  have reach (hi : 8 ≤ i) : byte.toBitVec.getLsbD i = false := BitVec.getLsbD_of_ge _ _ hi
  simp only [setBitOfByte, ← UInt8.toNat_toBitVec, BitVec.testBit_toNat]
  cases bit with
  | false =>
      simp only [Bool.false_eq_true, if_false, UInt8.toBitVec_and, UInt8.toBitVec_not, weight,
        BitVec.getLsbD_and, BitVec.getLsbD_not, BitVec.getLsbD_twoPow]
      grind
  | true =>
      simp only [if_true, UInt8.toBitVec_or, weight, BitVec.getLsbD_or, BitVec.getLsbD_twoPow]
      grind

/-- Setting a bit of a record sets that bit, if the record has it, and no other. -/
theorem bitOf_setBitAt (bytes : List UInt8) (place : ℕ) (bit : Bool) (position : ℕ) :
    bitOf (setBitAt bytes place bit) position =
      if position = place ∧ position < 8 * bytes.length then bit else bitOf bytes position := by
  simp only [bitOf, setBitAt, List.getElem?_modify]
  cases hbyte : bytes[position / 8]? with
  | none =>
      have beyond := List.getElem?_eq_none_iff.1 hbyte
      rw [if_neg (by omega)]
      rfl
  | some byte =>
      have inside := (List.getElem?_eq_some_iff.1 hbyte).1
      simp only [Option.map_eq_map, Option.map_some]
      by_cases same : place / 8 = position / 8
      · rw [if_pos same, testBit_setBitOfByte _ (by omega)]
        -- in the byte of the bit its place in the byte decides
        congr 1
        apply propext
        omega
      · rw [if_neg same, if_neg (by rintro ⟨rfl, -⟩; exact same rfl)]

/-! ### Ranges of bits -/

/-- **Every bit after a write**: those of the range are the bits of the number, and the others are
left alone. -/
theorem bitOf_insertBits (bytes : List UInt8) (start : UInt16) (length value position : ℕ) :
    bitOf (insertBits bytes start length value) position =
      if start.toNat ≤ position ∧ position < start.toNat + length ∧ position < 8 * bytes.length
      then value.testBit (position - start.toNat)
      else bitOf bytes position := by
  induction length with
  | zero => rw [if_neg (by omega), insertBits]
  | succ length ih =>
      rw [insertBits, bitOf_setBitAt, length_insertBits, ih]
      by_cases last : position = start.toNat + length
      · have index : position - start.toNat = length := by omega
        rw [index]
        by_cases inside : position < 8 * bytes.length
        · rw [if_pos ⟨last, inside⟩, if_pos ⟨by omega, by omega, inside⟩]
        · rw [if_neg (by tauto), if_neg (by tauto), if_neg (by tauto)]
      · -- all other bits are those of the shorter range
        rw [if_neg (by tauto)]
        congr 1
        apply propext
        omega

/-- **Every bit of a number that is read** is a bit of the record. -/
theorem testBit_extractBits (bytes : List UInt8) (start : UInt16) (length i : ℕ) :
    (extractBits bytes start length).testBit i =
      (decide (i < length) && bitOf bytes (start.toNat + i)) := by
  induction length with
  | zero => simp [extractBits]
  | succ length ih =>
      rw [extractBits, Nat.add_comm, Nat.mul_comm, twoPow_eq,
        Nat.testBit_two_pow_mul_add _ (extractBits_lt bytes start length)]
      rcases lt_trichotomy i length with below | rfl | above
      · rw [if_pos below, ih, decide_eq_true below,
          decide_eq_true (below.trans (Nat.lt_succ_self _))]
      · rw [if_neg (lt_irrefl i), Nat.sub_self, decide_eq_true (Nat.lt_succ_self i)]
        cases bitOf bytes (start.toNat + i) <;> rfl
      · -- the highest bit of the range is the last one of the number
        have small : (bitOf bytes (start.toNat + length)).toNat < 2 ^ (i - length) :=
          (Bool.toNat_lt _).trans_le (Nat.le_self_pow (by omega) 2)
        rw [if_neg above.not_gt, Nat.testBit_lt_two_pow small, decide_eq_false (by omega)]
        rfl

/-- A write leaves the low bits of the number in its range. -/
theorem bitOf_insertBits_of_inside {bytes : List UInt8} {start : UInt16} {length position : ℕ}
    (inside : start.toNat + length ≤ 8 * bytes.length) (value : ℕ)
    (lower : start.toNat ≤ position) (upper : position < start.toNat + length) :
    bitOf (insertBits bytes start length value) position =
      value.testBit (position - start.toNat) := by
  rw [bitOf_insertBits, if_pos ⟨lower, upper, upper.trans_le inside⟩]

theorem bitOf_insertBits_of_outside {start : UInt16} {length position : ℕ} (bytes : List UInt8)
    (value : ℕ) (outside : ¬ (start.toNat ≤ position ∧ position < start.toNat + length)) :
    bitOf (insertBits bytes start length value) position = bitOf bytes position := by
  rw [bitOf_insertBits, if_neg (by tauto)]

/-- A range with the bits of a number is read as the low bits of that number. -/
theorem extractBits_eq_mod {bytes : List UInt8} {start : UInt16} {length value : ℕ}
    (same : ∀ i < length, bitOf bytes (start.toNat + i) = value.testBit i) :
    extractBits bytes start length = value % 2 ^ length := by
  apply Nat.eq_of_testBit_eq
  intro i
  rw [testBit_extractBits, Nat.testBit_mod_two_pow]
  by_cases below : i < length
  · rw [same i below]
  · simp [below]

theorem extractBits_insertBits {bytes : List UInt8} {start : UInt16} {length : ℕ}
    (inside : start.toNat + length ≤ 8 * bytes.length) (value : ℕ) :
    extractBits (insertBits bytes start length value) start length = value % 2 ^ length := by
  apply extractBits_eq_mod
  intro i below
  rw [bitOf_insertBits_of_inside inside value (by omega) (by omega), Nat.add_sub_cancel_left]

/-! ### The number of a record -/

/-- Reading a range divides the number of the record. -/
theorem extractBits_eq (bytes : List UInt8) (start : UInt16) (length : ℕ) :
    extractBits bytes start length = natOfBytes bytes / 2 ^ start.toNat % 2 ^ length := by
  apply extractBits_eq_mod
  intro i _
  rw [Nat.testBit_div_two_pow, testBit_natOfBytes, Nat.add_comm]

/-- Writing a range above all others adds to the number of the record. -/
theorem natOfBytes_insertBits {bytes : List UInt8} {start : UInt16} {length : ℕ}
    (inside : start.toNat + length ≤ 8 * bytes.length)
    (above : natOfBytes bytes < 2 ^ start.toNat) (value : ℕ) :
    natOfBytes (insertBits bytes start length value) =
      natOfBytes bytes + 2 ^ start.toNat * (value % 2 ^ length) := by
  apply Nat.eq_of_testBit_eq
  intro position
  rw [Nat.add_comm, Nat.testBit_two_pow_mul_add _ above, testBit_natOfBytes, testBit_natOfBytes,
    Nat.testBit_mod_two_pow]
  by_cases lower : position < start.toNat
  · rw [bitOf_insertBits_of_outside bytes value (by omega), if_pos lower]
  · by_cases upper : position < start.toNat + length
    · have short : position - start.toNat < length := by omega
      rw [bitOf_insertBits_of_inside inside value (by omega) upper, if_neg lower,
        decide_eq_true short, Bool.true_and]
    · -- above the range nothing has been written
      have clear : bitOf bytes position = false := by
        rw [← testBit_natOfBytes]
        apply Nat.testBit_lt_two_pow
        exact above.trans_le (Nat.pow_le_pow_right (by norm_num) (by omega))
      have long : ¬ position - start.toNat < length := by omega
      rw [bitOf_insertBits_of_outside bytes value (by omega), if_neg lower, clear,
        decide_eq_false long, Bool.false_and]

theorem natOfBytes_injective {left right : List UInt8} (hlength : left.length = right.length)
    (h : natOfBytes left = natOfBytes right) : left = right := by
  rw [← bytesOfNat_natOfBytes left, ← bytesOfNat_natOfBytes right, hlength, h]

/-- A record of known length is its bits. -/
theorem eq_of_bitOf_eq {left right : List UInt8} (hlength : left.length = right.length)
    (same : ∀ position, bitOf left position = bitOf right position) : left = right := by
  apply natOfBytes_injective hlength
  apply Nat.eq_of_testBit_eq
  intro position
  rw [testBit_natOfBytes, testBit_natOfBytes, same]

/-- A byte of a record is a digit of its number. -/
theorem natOfBytes_div_mod {bytes : List UInt8} {i : ℕ} {byte : UInt8} (h : bytes[i]? = some byte) :
    natOfBytes bytes / 2 ^ (8 * i) % 2 ^ 8 = byte.toNat := by
  apply Nat.eq_of_testBit_eq
  intro position
  rw [Nat.testBit_mod_two_pow, Nat.testBit_div_two_pow, testBit_natOfBytes]
  by_cases below : position < 8
  · have quotient : (position + 8 * i) / 8 = i := by omega
    have remainder : (position + 8 * i) % 8 = position := by omega
    simp [bitOf, quotient, remainder, h, below]
  · have small : byte.toNat < 2 ^ position :=
      byte.toNat_lt.trans_le (Nat.pow_le_pow_right (by norm_num) (by omega))
    simp [below, Nat.testBit_lt_two_pow small]

/-! ### The number of bytes after others -/

theorem natOfBytes_append (left right : List UInt8) :
    natOfBytes (left ++ right) = natOfBytes left + 2 ^ (8 * left.length) * natOfBytes right := by
  induction left with
  | nil => simp [natOfBytes]
  | cons byte left ih =>
      have scale : 2 ^ (8 * (left.length + 1)) = 256 * 2 ^ (8 * left.length) := by
        rw [Nat.mul_succ, pow_add, mul_comm]
        rfl
      rw [List.cons_append, natOfBytes, natOfBytes, ih, List.length_cons, scale, mul_assoc]
      omega

theorem natOfBytes_replicate_zero (count : ℕ) : natOfBytes (List.replicate count 0) = 0 := by
  induction count with
  | zero => rfl
  | succ count ih => rw [List.replicate_succ, natOfBytes, ih]; rfl

theorem natOfBytes_append_zeros (bytes : List UInt8) (count : ℕ) :
    natOfBytes (bytes ++ List.replicate count 0) = natOfBytes bytes := by
  rw [natOfBytes_append, natOfBytes_replicate_zero, Nat.mul_zero, Nat.add_zero]

/-! ### Bit addresses of bytes -/

theorem toNat_ofNat_eight_mul {bits k : ℕ} (hpos : 1 ≤ bits) (h : 8 * k + bits ≤ 65536) :
    (UInt16.ofNat (8 * k)).toNat = 8 * k := by
  rw [UInt16.toNat_ofNat', Nat.mod_eq_of_lt (by omega)]

namespace Field

variable {bits k : ℕ}

/-! ### Reading -/

/-- The bits that a field reads are those of the range that begins with its first byte. -/
theorem natOfBytes_field_mod (hpos : 1 ≤ bits) (addressed : 8 * k + bits ≤ 65536)
    (bytes : List UInt8) :
    natOfBytes ((bytes.drop k).take (byteCount bits)) % 2 ^ bits =
      extractBits bytes (UInt16.ofNat (8 * k)) bits := by
  have first := toNat_ofNat_eight_mul hpos addressed
  refine (extractBits_eq_mod ?_).symm
  intro i hi
  have inside : i < 8 * byteCount bits := by rw [byteCount]; omega
  rw [first, testBit_natOfBytes, bitOf_take inside, bitOf_drop]

/-- The bits above the width do not count for a signed code. -/
theorem signed_mod (hle : bits ≤ 64) (pattern : ℕ) :
    signed bits (pattern % 2 ^ bits) = signed bits pattern := by
  rw [signed, signed, min_eq_left hle, twoPow_eq, Int.natCast_emod]
  exact Int.emod_bmod ..

/-- Nor do they for a code without a sign, which is a 64-bit signed number. -/
theorem unsigned_eq_bmod (hle : bits ≤ 64) (pattern : ℕ) :
    unsigned bits pattern = Int.bmod (pattern % 2 ^ bits : ℕ) (2 ^ 64) := by
  rw [unsigned, min_eq_left hle]
  rfl

/-! ### Writing -/

/-- The pattern of a code in the low bits is the code as a 64-bit number, cut off. -/
theorem pattern_eq_mod (hle : bits ≤ 64) (code : ℤ) :
    pattern bits code = (code % 2 ^ 64).toNat % 2 ^ bits := by
  have nonneg : 0 ≤ code % 2 ^ 64 := Int.emod_nonneg code (by norm_num)
  have divides : (2 ^ bits : ℤ) ∣ 2 ^ 64 := pow_dvd_pow 2 hle
  have residue : ((code % 2 ^ 64).toNat : ℤ) % 2 ^ bits = code % 2 ^ bits := by
    rw [Int.toNat_of_nonneg nonneg, Int.emod_emod_of_dvd code divides]
  have cast := cast_pattern hle code
  rw [twoPow_eq, Nat.cast_pow, Nat.cast_ofNat, ← residue] at cast
  exact_mod_cast cast

/-- A field is written as the range of bits that begins with its first byte, from any number with
the bits of its code. -/
theorem append_write {before : List UInt8} (hpos : 1 ≤ bits)
    (addressed : 8 * before.length + bits ≤ 65536) {code : ℤ} {value : ℕ}
    (same : pattern bits code = value % 2 ^ bits) :
    before ++ write bits code =
      insertBits (before ++ List.replicate (byteCount bits) 0) (UInt16.ofNat (8 * before.length))
        bits value := by
  have first := toNat_ofNat_eight_mul hpos addressed
  have covered : bits ≤ 8 * byteCount bits := by rw [byteCount]; omega
  have inside : 8 * before.length + bits ≤
      8 * (before ++ List.replicate (byteCount bits) (0 : UInt8)).length := by
    rw [List.length_append, List.length_replicate]
    omega
  -- nothing has been written from the first byte of the field on
  have blank := natOfBytes_append_zeros before (byteCount bits)
  have above : natOfBytes before < 2 ^ (8 * before.length) := natOfBytes_lt before
  apply natOfBytes_injective
  · rw [length_insertBits, List.length_append, List.length_append, length_write,
      List.length_replicate]
  · rw [natOfBytes_insertBits (by rwa [first]) (by rwa [first, blank]), blank,
      first, natOfBytes_append, natOfBytes_write, same]

/-- **A field is a range of bits.**  Let a field begin at a byte, and let its bits have addresses.
A field without a sign is read as the number of the range, as a 64-bit signed number, and a field
with a sign as the signed code that the number stands for.  And after any bytes the field of a code
is what writing the code, as a 64-bit number, to the range leaves of clear bytes. -/
theorem read_write_bitwise (hpos : 1 ≤ bits) (hle : bits ≤ 64) (addressed : 8 * k + bits ≤ 65536) :
    (∀ bytes : List UInt8,
        read bits false (bytes.drop k) =
          Int.bmod (extractBits bytes (UInt16.ofNat (8 * k)) bits) (2 ^ 64) ∧
        read bits true (bytes.drop k) =
          signed bits (extractBits bytes (UInt16.ofNat (8 * k)) bits)) ∧
      ∀ (before : List UInt8) (code : ℤ), before.length = k →
        before ++ write bits code =
          insertBits (before ++ List.replicate ((bits + 7) / 8) 0) (UInt16.ofNat (8 * k)) bits
            (code % 2 ^ 64).toNat := by
  constructor
  · intro bytes
    have range := natOfBytes_field_mod hpos addressed bytes
    constructor
    · rw [read, if_neg Bool.false_ne_true, ← range]
      exact unsigned_eq_bmod hle _
    · rw [read, if_pos rfl, ← range, signed_mod hle]
  · rintro before code rfl
    exact append_write hpos addressed (pattern_eq_mod hle code)

/-- A field of twelve bits after one byte takes half of its second byte: reading leaves the other
half out, and writing clears it. -/
theorem read_write_bitwise_twelveBits :
    (1 ≤ 12 ∧ 12 ≤ 64 ∧ 8 * 1 + 12 ≤ 65536) ∧
      extractBits [0x11, 0xFE, 0x5F] 8 12 = 0xFFE ∧
      read 12 false [0xFE, 0x5F] = Int.bmod 0xFFE (2 ^ 64) ∧
      read 12 true [0xFE, 0x5F] = signed 12 0xFFE ∧
      [0x11] ++ write 12 (-2) = insertBits [0x11, 0x00, 0x00] 8 12 0xFFFFFFFFFFFFFFFE := by
  have pos : 1 ≤ 12 := by norm_num
  have short : 12 ≤ 64 := by norm_num
  have addressed : 8 * 1 + 12 ≤ 65536 := by norm_num
  have first : UInt16.ofNat (8 * 1) = 8 := rfl
  have range : extractBits [0x11, 0xFE, 0x5F] 8 12 = 0xFFE := by decide
  obtain ⟨reads, writes⟩ := read_write_bitwise pos short addressed
  obtain ⟨number, code⟩ := reads [0x11, 0xFE, 0x5F]
  rw [first, range] at number code
  exact ⟨⟨pos, short, addressed⟩, range, number, code, writes [0x11] (-2) rfl⟩

end Field

end DeviceProperty
