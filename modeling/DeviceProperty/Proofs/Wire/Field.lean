/-
**Fields on the wire.**

A field writes the residue of a code modulo a power of two, and reads the only code of its width
with the residue that the bytes hold.  Everything about one field follows: a code that fits comes
back, a field of whole bytes writes what it has read, and the padding above the width is written
clear and read over.

Main definitions:

* `DeviceProperty.Width.Readable` — a width whose codes are 64-bit signed numbers;
* `DeviceProperty.Width.Residue` — the code of a width with the low bits of a number.

Main results:

* `DeviceProperty.testBit_natOfBytes` — the bits of bytes are the bits of their number;
* `DeviceProperty.Field.fits_read`, `DeviceProperty.Field.read_emod` — what is read fits the field
  and has the residue of the bytes;
* `DeviceProperty.Field.residue_read_write_append` — what is read has the low bits of what was
  written;
* `DeviceProperty.Field.read_write_append_eq_iff` — **a code comes back exactly when it fits**;
* `DeviceProperty.Field.write_read` — a field of whole bytes writes what it has read;
* `DeviceProperty.Field.bitOf_write_of_le`, `DeviceProperty.Field.read_congr` — padding is written
  clear, and read over.
-/

import Mathlib
import DeviceProperty.Format.Basic

set_option relaxedAutoImplicit false
set_option autoImplicit false

namespace DeviceProperty

/-! ### Bits of bytes -/

@[simp] theorem bitOf_nil (position : ℕ) : bitOf [] position = false := rfl

theorem bitOf_drop (bytes : List UInt8) (count position : ℕ) :
    bitOf (bytes.drop count) position = bitOf bytes (8 * count + position) := by
  have quotient : (8 * count + position) / 8 = count + position / 8 := by omega
  have remainder : (8 * count + position) % 8 = position % 8 := by omega
  simp only [bitOf, List.getElem?_drop, quotient, remainder]

theorem bitOf_take {bytes : List UInt8} {count position : ℕ} (h : position < 8 * count) :
    bitOf (bytes.take count) position = bitOf bytes position := by
  simp only [bitOf, List.getElem?_take_of_lt (show position / 8 < count by omega)]

theorem bitOf_append_left {left : List UInt8} (right : List UInt8) {position : ℕ}
    (h : position < 8 * left.length) : bitOf (left ++ right) position = bitOf left position := by
  rw [← bitOf_take h, List.take_left]

theorem testBit_natOfBytes (bytes : List UInt8) (position : ℕ) :
    (natOfBytes bytes).testBit position = bitOf bytes position := by
  induction bytes generalizing position with
  | nil => simp [natOfBytes]
  | cons byte rest ih =>
      have small : byte.toNat < 2 ^ 8 := byte.toNat_lt
      rw [natOfBytes, Nat.add_comm, show (256 : ℕ) = 2 ^ 8 by rfl,
        Nat.testBit_two_pow_mul_add _ small]
      split_ifs with h
      · -- the low eight positions belong to the first byte
        simp [bitOf, Nat.div_eq_of_lt h, Nat.mod_eq_of_lt h]
      · have shifted := bitOf_drop (byte :: rest) 1 (position - 8)
        rw [show 8 * 1 + (position - 8) = position by omega] at shifted
        rw [ih, ← shifted]
        rfl

theorem bytesOfNat_natOfBytes (bytes : List UInt8) :
    bytesOfNat bytes.length (natOfBytes bytes) = bytes := by
  induction bytes with
  | nil => rfl
  | cons byte rest ih =>
      have small := byte.toNat_lt
      have low : (byte.toNat + 256 * natOfBytes rest) % 256 = byte.toNat := by omega
      have high : (byte.toNat + 256 * natOfBytes rest) / 256 = natOfBytes rest := by omega
      rw [List.length_cons, bytesOfNat, natOfBytes, low, high, ih, UInt8.ofNat_toNat]

theorem twoPow_eq (n : ℕ) : twoPow n = 2 ^ n := rfl

theorem twoPow_le_twoPow {m n : ℕ} (h : m ≤ n) : twoPow m ≤ twoPow n :=
  Nat.pow_le_pow_right (by norm_num) h

/-! ### The codes of a width -/

namespace Width

variable {width : Width}

/-- A width has as many codes as patterns. -/
theorem maxCode_eq (hpos : 0 < width.bits) :
    width.maxCode = width.minCode + twoPow width.bits - 1 := by
  obtain ⟨bits, signed⟩ := width
  obtain ⟨bits, rfl⟩ : ∃ n, bits = n + 1 := ⟨bits - 1, by simp only at hpos; omega⟩
  cases signed
  · simp [maxCode, minCode]
  · simp [maxCode, minCode, twoPow_succ]
    omega

theorem eq_of_emod_eq (hpos : 0 < width.bits) {a b : ℤ} (ha : width.fits a = true)
    (hb : width.fits b = true) (h : a % twoPow width.bits = b % twoPow width.bits) : a = b := by
  obtain ⟨lowerA, upperA⟩ := fits_iff.1 ha
  obtain ⟨lowerB, upperB⟩ := fits_iff.1 hb
  -- the codes of a width span less than one period of the residue
  have size := maxCode_eq hpos
  have close : |a - b| < twoPow width.bits := abs_lt.2 ⟨by omega, by omega⟩
  have divides : (twoPow width.bits : ℤ) ∣ a - b := Int.ModEq.dvd (Int.ModEq.symm h)
  exact sub_eq_zero.1 (Int.eq_zero_of_abs_lt_dvd divides close)

/-- A width that can be read: its codes are 64-bit signed numbers. -/
structure Readable (width : Width) : Prop where
  pos : 0 < width.bits
  le : width.bits ≤ 64
  unsigned_le : width.signed = false → width.bits ≤ 63

theorem Readable.of_le (hpos : 0 < width.bits) (hle : width.bits ≤ 63) : width.Readable :=
  ⟨hpos, hle.trans (by norm_num), fun _ => hle⟩

theorem Readable.writeHalts_eq_false (readable : width.Readable) :
    Field.writeHalts width.bits = false := by
  have := readable.le
  exact decide_eq_false (by rw [Field.byteCount]; omega)

theorem Readable.readHalts_eq_false (readable : width.Readable) :
    Field.readHalts width.bits width.signed = false := by
  have signed : Field.signHalts width.bits = false := by
    simp [Field.signHalts, readable.pos.ne', readable.le]
  have short : decide (8 < Field.byteCount width.bits) = false := readable.writeHalts_eq_false
  rw [Field.readHalts, short, signed, Bool.and_false, Bool.or_false]

/-- The code of a width with the low bits of a number: the number up to a multiple of the number of
patterns, in the range of the width. -/
structure Residue (width : Width) (number code : ℤ) : Prop where
  congruent : code ≡ number [ZMOD 2 ^ width.bits]
  lower : (if width.signed then -2 ^ (width.bits - 1) else 0) ≤ code
  upper : code < if width.signed then 2 ^ (width.bits - 1) else 2 ^ width.bits

theorem residue_iff {number code : ℤ} :
    width.Residue number code ↔
      width.fits code = true ∧ code % twoPow width.bits = number % twoPow width.bits := by
  have cast : ∀ n, ((twoPow n : ℕ) : ℤ) = 2 ^ n := fun n => by rw [twoPow_eq]; norm_cast
  obtain ⟨bits, signed⟩ := width
  rw [fits_iff, minCode, maxCode, cast, cast]
  constructor
  · rintro ⟨congruent, lower, upper⟩
    refine ⟨⟨lower, ?_⟩, congruent⟩
    cases signed <;> exact Int.le_sub_one_of_lt upper
  · rintro ⟨⟨lower, upper⟩, congruent⟩
    refine ⟨congruent, lower, ?_⟩
    cases signed <;> exact Int.lt_of_le_sub_one upper

theorem Residue.unique (hpos : 0 < width.bits) {number a b : ℤ} (ha : width.Residue number a)
    (hb : width.Residue number b) : a = b := by
  obtain ⟨fitsA, residueA⟩ := residue_iff.1 ha
  obtain ⟨fitsB, residueB⟩ := residue_iff.1 hb
  exact eq_of_emod_eq hpos fitsA fitsB (residueA.trans residueB.symm)

/-- The code with the low bits of a number is the number itself exactly when the width can carry
it. -/
theorem Residue.eq_iff_fits (hpos : 0 < width.bits) {number code : ℤ}
    (residue : width.Residue number code) : code = number ↔ width.fits number = true := by
  constructor
  · rintro rfl
    exact (residue_iff.1 residue).1
  · intro fits
    exact residue.unique hpos (residue_iff.2 ⟨fits, rfl⟩)

end Width

/-! ### Writing a field -/

namespace Field

theorem pattern_lt (bits : ℕ) (code : ℤ) : pattern bits code < twoPow (min bits 64) := by
  have positive : (0 : ℤ) < twoPow (min bits 64) := by exact_mod_cast twoPow_pos _
  have := Int.emod_lt_of_pos code positive
  have := Int.emod_nonneg code positive.ne'
  rw [pattern]
  omega

theorem cast_pattern {bits : ℕ} (hle : bits ≤ 64) (code : ℤ) :
    (pattern bits code : ℤ) = code % twoPow bits := by
  have positive : (0 : ℤ) < twoPow bits := by exact_mod_cast twoPow_pos _
  rw [pattern, min_eq_left hle, Int.toNat_of_nonneg (Int.emod_nonneg code positive.ne')]

theorem natOfBytes_write (bits : ℕ) (code : ℤ) :
    natOfBytes (write bits code) = pattern bits code := by
  rw [write, natOfBytes_bytesOfNat]
  refine Nat.mod_eq_of_lt ((pattern_lt bits code).trans_le (twoPow_le_twoPow ?_))
  rw [byteCount]
  omega

/-- The padding above the width is written clear. -/
theorem bitOf_write_of_le {bits position : ℕ} (h : bits ≤ position) (code : ℤ) :
    bitOf (write bits code) position = false := by
  rw [← testBit_natOfBytes, natOfBytes_write]
  refine Nat.testBit_lt_two_pow ((pattern_lt bits code).trans_le ?_)
  exact twoPow_le_twoPow ((min_le_left bits 64).trans h)

/-! ### Reading a field -/

/-- What a signed field reads is a code of its width. -/
theorem signed_bounds {bits : ℕ} (hpos : 0 < bits) (hle : bits ≤ 64) (pattern : ℕ) :
    -(twoPow (bits - 1) : ℤ) ≤ signed bits pattern ∧ signed bits pattern < twoPow (bits - 1) := by
  obtain ⟨bits, rfl⟩ : ∃ n, bits = n + 1 := ⟨bits - 1, by omega⟩
  have := twoPow_pos bits
  have double := twoPow_succ bits
  have lower := Int.le_bmod (x := pattern) (twoPow_pos (bits + 1))
  have upper := Int.bmod_lt (x := pattern) (twoPow_pos (bits + 1))
  rw [signed, min_eq_left hle, Nat.add_sub_cancel]
  omega

/-- What an unsigned field reads is the pattern itself. -/
theorem unsigned_eq {bits : ℕ} (hle : bits ≤ 63) (pattern : ℕ) :
    unsigned bits pattern = (pattern % twoPow bits : ℕ) := by
  have small : pattern % twoPow bits < twoPow bits := Nat.mod_lt _ (twoPow_pos bits)
  have room : twoPow bits ≤ twoPow 63 := twoPow_le_twoPow hle
  have half : twoPow 64 = 2 * twoPow 63 := twoPow_succ 63
  rw [unsigned, min_eq_left (by omega)]
  exact Int.bmod_eq_of_le (by omega) (by omega)

theorem fits_read {width : Width} (readable : width.Readable) (bytes : List UInt8) :
    width.fits (read width.bits width.signed bytes) = true := by
  obtain ⟨bits, isSigned⟩ := width
  obtain ⟨hpos, hle, hunsigned⟩ := readable
  rw [Width.fits_iff]
  cases isSigned
  · have small := Nat.mod_lt (natOfBytes (bytes.take (byteCount bits))) (twoPow_pos bits)
    simp only [read, Bool.false_eq_true, if_false, unsigned_eq (hunsigned rfl), Width.minCode,
      Width.maxCode]
    omega
  · have positive : 0 < bits := hpos
    have bounds := signed_bounds positive hle (natOfBytes (bytes.take (byteCount bits)))
    simp only [read, if_true, Width.minCode, Width.maxCode]
    omega

/-- What is read has the residue of the bytes. -/
theorem read_emod {width : Width} (readable : width.Readable) (bytes : List UInt8) :
    read width.bits width.signed bytes % twoPow width.bits =
      (natOfBytes (bytes.take width.byteCount) % twoPow width.bits : ℕ) := by
  obtain ⟨bits, isSigned⟩ := width
  obtain ⟨-, hle, hunsigned⟩ := readable
  cases isSigned
  · simp only [read, Bool.false_eq_true, if_false, unsigned_eq (hunsigned rfl), Width.byteCount]
    exact_mod_cast Nat.mod_mod _ _
  · have room : min bits 64 = bits := min_eq_left hle
    simp only [read, if_true, signed, room, Width.byteCount, Int.bmod_emod]
    norm_cast

/-- What is read after a code has been written, whatever follows, is the code of the width with the
low bits of that code. -/
theorem residue_read_write_append {width : Width} (readable : width.Readable) (code : ℤ)
    (rest : List UInt8) :
    width.Residue code (read width.bits width.signed (write width.bits code ++ rest)) := by
  have own : (write width.bits code ++ rest).take width.byteCount = write width.bits code :=
    List.take_left' (length_write width.bits code)
  refine Width.residue_iff.2 ⟨fits_read readable _, ?_⟩
  rw [read_emod readable, own, natOfBytes_write, Int.natCast_emod, cast_pattern readable.le]
  exact Int.emod_emod _ _

/-- **A code that fits comes back** from the bytes of its field, and no other code does. -/
theorem read_write_append_eq_iff {width : Width} (readable : width.Readable) (code : ℤ)
    (rest : List UInt8) :
    read width.bits width.signed (write width.bits code ++ rest) = code ↔
      width.fits code = true :=
  (residue_read_write_append readable code rest).eq_iff_fits readable.pos

/-- A field of whole bytes writes what it has read. -/
theorem write_read {width : Width} (haligned : width.bits % 8 = 0) (readable : width.Readable)
    {bytes : List UInt8} (h : width.byteCount ≤ bytes.length) :
    write width.bits (read width.bits width.signed bytes) = bytes.take width.byteCount := by
  have count : (bytes.take width.byteCount).length = byteCount width.bits :=
    (List.length_take_of_le h).trans rfl
  have whole : 8 * byteCount width.bits = width.bits := by rw [byteCount]; omega
  have small := natOfBytes_lt (bytes.take width.byteCount)
  rw [count, whole] at small
  have same : pattern width.bits (read width.bits width.signed bytes) =
      natOfBytes (bytes.take width.byteCount) := by
    have residue := cast_pattern readable.le (read width.bits width.signed bytes)
    rw [read_emod readable, Nat.mod_eq_of_lt small] at residue
    exact_mod_cast residue
  rw [write, same, ← count, bytesOfNat_natOfBytes]

/-- The bits below the width decide what is read. -/
theorem read_congr {width : Width} (readable : width.Readable) {left right : List UInt8}
    (h : ∀ position < width.bits, bitOf left position = bitOf right position) :
    read width.bits width.signed left = read width.bits width.signed right := by
  refine Width.eq_of_emod_eq readable.pos (fits_read readable left) (fits_read readable right) ?_
  rw [read_emod readable, read_emod readable]
  congr 1
  apply Nat.eq_of_testBit_eq
  intro position
  rw [twoPow_eq, Nat.testBit_mod_two_pow, Nat.testBit_mod_two_pow, testBit_natOfBytes,
    testBit_natOfBytes]
  by_cases below : position < width.bits
  · have inside : position < 8 * width.byteCount := by
      rw [Width.byteCount, byteCount]; omega
    rw [bitOf_take inside, bitOf_take inside, h position below]
  · simp [below]

end Field

end DeviceProperty
