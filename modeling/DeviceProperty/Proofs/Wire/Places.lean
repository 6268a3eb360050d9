/-
**Where the bits of a range are.**

One would expect the bits of a range side by side in the record, wherever the range begins: bit `i`
of a range that begins at bit `start` is bit `start + i` of the record, a bit beyond the last byte
reads as clear and is lost when it is written, and no other bit is touched.  But a bit is looked for
at its address, also where the record has no such bit, and the addresses end.  A range with a bit
past the last address is neither written nor read, however few of its bits are in the record; every
other range keeps the law.

Main definitions:

* `DeviceProperty.Overwritten` — a record after a number has been written to a range of it;
* `DeviceProperty.SideBySide` — the law of a range.

Main results:

* `DeviceProperty.Overwritten.eq_self` — a range that begins beyond the end of the record writes
  nothing;
* `DeviceProperty.overwritten_insertBits` — what a write leaves;
* `DeviceProperty.sideBySide_iff` — **the law holds up to the last address**;
* `DeviceProperty.insertBits_extractBits_places` — **where the bits of a range are**.
-/

import Mathlib
import DeviceProperty.Proofs.Wire.Bits

set_option relaxedAutoImplicit false
set_option autoImplicit false

namespace DeviceProperty

variable {bytes after : List UInt8} {start : UInt16} {length value : ℕ}

/-! ### The law of a range -/

/-- A record after a number has been written to `length` of its bits from `start` on.  It is as long
as before; the bits of the number are in their places, as far as there are such places; and no other
bit has changed. -/
structure Overwritten (bytes : List UInt8) (start : UInt16) (length value : ℕ)
    (after : List UInt8) : Prop where
  size : after.length = bytes.length
  inside : ∀ i < length, start.toNat + i < 8 * bytes.length →
    bitOf after (start.toNat + i) = value.testBit i
  outside : ∀ position, ¬ (start.toNat ≤ position ∧ position < start.toNat + length) →
    bitOf after position = bitOf bytes position

/-- The bits of a range are side by side: every number can be written there, and the number that is
read has the bits of the record in their order, and clear ones beyond its end. -/
structure SideBySide (bytes : List UInt8) (start : UInt16) (length : ℕ) : Prop where
  written : ∀ value, ∃ after, insertBits? bytes start length value = some after ∧
    Overwritten bytes start length value after
  read : ∃ number, extractBits? bytes start length = some number ∧
    ∀ i, number.testBit i = (decide (i < length) && bitOf bytes (start.toNat + i))

theorem bitOf_of_le {position : ℕ} (h : 8 * bytes.length ≤ position) :
    bitOf bytes position = false := by
  have beyond : bytes[position / 8]? = none := List.getElem?_eq_none (by omega)
  rw [bitOf, beyond]

/-- A range that begins beyond the end of the record writes nothing. -/
theorem Overwritten.eq_self (written : Overwritten bytes start length value after)
    (beyond : 8 * bytes.length ≤ start.toNat) : after = bytes := by
  apply eq_of_bitOf_eq written.size
  intro position
  rcases Nat.lt_or_ge position (8 * bytes.length) with within | past
  · exact written.outside position (by omega)
  · rw [bitOf_of_le past, bitOf_of_le (by rwa [written.size])]

/-! ### Up to the last address -/

theorem overwritten_insertBits (bytes : List UInt8) (start : UInt16) (length value : ℕ) :
    Overwritten bytes start length value (insertBits bytes start length value) where
  size := length_insertBits ..
  inside := by
    intro i hi within
    rw [bitOf_insertBits, if_pos ⟨by omega, by omega, within⟩, Nat.add_sub_cancel_left]
  outside := fun _ => bitOf_insertBits_of_outside bytes value

theorem extractBits?_of_lt (bytes : List UInt8) (past : 65536 < start.toNat + length) :
    extractBits? bytes start length = none :=
  (extractBits?_eq ..).trans (if_neg past.not_ge)

theorem insertBits?_of_lt (bytes : List UInt8) (value : ℕ) (past : 65536 < start.toNat + length) :
    insertBits? bytes start length value = none :=
  (insertBits?_eq ..).trans (if_neg past.not_ge)

/-- **The law holds up to the last address**, whatever the length of the record. -/
theorem sideBySide_iff : SideBySide bytes start length ↔ start.toNat + length ≤ 65536 := by
  constructor
  · -- already reading a range past the last address breaks off
    rintro ⟨-, number, read, -⟩
    by_contra past
    rw [extractBits?_of_lt bytes (not_le.1 past)] at read
    cases read
  · intro addressed
    constructor
    · intro value
      exact ⟨_, insertBits?_of_le addressed bytes value,
        overwritten_insertBits bytes start length value⟩
    · exact ⟨_, extractBits?_of_le addressed bytes, testBit_extractBits bytes start length⟩

/-- **Where the bits of a range are.**  They are side by side exactly when the last of them has an
address, and then a range that begins at the end of the record or beyond it writes nothing.  With a
bit past the last address writing and reading break off, whatever the record and the number. -/
theorem insertBits_extractBits_places (bytes : List UInt8) (start : UInt16) (length : ℕ) :
    (SideBySide bytes start length ↔ start.toNat + length ≤ 65536) ∧
      (start.toNat + length ≤ 65536 → 8 * bytes.length ≤ start.toNat →
        ∀ value, insertBits? bytes start length value = some bytes) ∧
      (65536 < start.toNat + length →
        extractBits? bytes start length = none ∧
          ∀ value, insertBits? bytes start length value = none) := by
  refine ⟨sideBySide_iff, ?_, ?_⟩
  · intro addressed beyond value
    obtain ⟨after, written, overwritten⟩ := (sideBySide_iff.2 addressed).written value
    rw [written, overwritten.eq_self beyond]
  · intro past
    exact ⟨extractBits?_of_lt bytes past, fun value => insertBits?_of_lt bytes value past⟩

/-- Eight bits that begin in the middle of the only byte, half of which are lost. -/
example : insertBits? [0x00] 4 8 0xFF = some [0xF0] := by decide

/-- The bits of a range are not side by side wherever it begins: two bits from the last address on
are not written to a record of one byte, which has neither of them, and not read from it. -/
theorem not_forall_side_by_side :
    ¬ (∀ (bytes : List UInt8) (start : UInt16) (length : ℕ), 1 ≤ length → length ≤ 64 →
        SideBySide bytes start length) ∧
      insertBits? [0xFF] 65535 2 0 = none ∧ extractBits? [0xFF] 65535 2 = none := by
  have refused : insertBits? [0xFF] 65535 2 0 = none := by decide
  refine ⟨?_, refused, by decide⟩
  intro law
  obtain ⟨after, written, -⟩ := (law [0xFF] 65535 2 (by norm_num) (by norm_num)).written 0
  cases refused.symm.trans written

end DeviceProperty
