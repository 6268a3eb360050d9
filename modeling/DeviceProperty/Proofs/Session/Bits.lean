/-
**A session of ranges of bits.**

Ranges of bits may begin and end inside a byte and share bytes with their neighbours, so every write
of one range goes through bytes that hold others.  Ranges that share no bit stay out of one
another's way nevertheless.  This module follows a whole list of writes through a buffer: when the
ranges lie inside the buffer and no two of them share a bit, every range holds the low bits of its
own number at the end, every other bit is as it was before, and so the order of the writes does not
matter.

Main definitions:

* `DeviceProperty.BitField` — a range of bits with the number that is written to it;
* `DeviceProperty.BitField.Covers`, `DeviceProperty.BitField.Apart` — the bits of a range, and
  ranges that share none;
* `DeviceProperty.BitField.insertAll` — the bytes after a list of writes.

Main results:

* `DeviceProperty.BitField.bitOf_insertAll_of_covers`,
  `DeviceProperty.BitField.bitOf_insertAll_of_not_covers` — **every bit** after a list of writes;
* `DeviceProperty.BitField.insertAll_perm` — the order of the writes does not matter;
* `DeviceProperty.Session.inserts_apart` — **writes to ranges apart from one another**.
-/

import Mathlib
import DeviceProperty.Proofs.Session.Appending
import DeviceProperty.Proofs.Wire.Bits

set_option relaxedAutoImplicit false
set_option autoImplicit false

namespace DeviceProperty

/-- A range of bits, and the number that is written to it. -/
structure BitField where
  start : UInt16
  length : ℕ
  value : ℕ
deriving DecidableEq, Repr

namespace BitField

variable {field other : BitField} {fields others : List BitField} {bytes : List UInt8}
  {position : ℕ}

def insert (field : BitField) : Step := .insertBits field.start field.length field.value

def extract (field : BitField) : Step := .extractBits field.start field.length

/-- The range has this bit. -/
def Covers (field : BitField) (position : ℕ) : Prop :=
  field.start.toNat ≤ position ∧ position < field.start.toNat + field.length

/-- Two ranges share no bit. -/
def Apart (field other : BitField) : Prop :=
  ∀ position, field.Covers position → ¬ other.Covers position

theorem Apart.symm (apart : field.Apart other) : other.Apart field :=
  fun position covers covered => apart position covered covers

/-- The range ends with the bytes or before. -/
def Inside (bytes : List UInt8) (field : BitField) : Prop :=
  field.start.toNat + field.length ≤ 8 * bytes.length

theorem Inside.addressed (inside : field.Inside bytes) (short : bytes.length ≤ 8192) :
    field.start.toNat + field.length ≤ 65536 := by
  rw [Inside] at inside
  omega

/-! ### The bytes after a list of writes -/

/-- The bytes after a list of writes. -/
def insertAll (bytes : List UInt8) (fields : List BitField) : List UInt8 :=
  fields.foldl (fun bytes field => insertBits bytes field.start field.length field.value) bytes

@[simp] theorem insertAll_nil (bytes : List UInt8) : insertAll bytes [] = bytes := rfl

@[simp] theorem insertAll_cons (bytes : List UInt8) (field : BitField) (fields : List BitField) :
    insertAll bytes (field :: fields) =
      insertAll (insertBits bytes field.start field.length field.value) fields := rfl

@[simp] theorem length_insertAll (bytes : List UInt8) (fields : List BitField) :
    (insertAll bytes fields).length = bytes.length := by
  induction fields generalizing bytes with
  | nil => rfl
  | cons field fields ih => rw [insertAll_cons, ih, length_insertBits]

theorem Inside.insertBits (inside : field.Inside bytes) (start : UInt16) (length value : ℕ) :
    field.Inside (insertBits bytes start length value) := by
  rwa [Inside, length_insertBits]

theorem bitOf_insertAll_of_not_covers (bytes : List UInt8)
    (free : ∀ field ∈ fields, ¬ field.Covers position) :
    bitOf (insertAll bytes fields) position = bitOf bytes position := by
  induction fields generalizing bytes with
  | nil => rfl
  | cons first fields ih =>
      rw [List.forall_mem_cons] at free
      rw [insertAll_cons, ih _ free.2]
      exact bitOf_insertBits_of_outside bytes first.value free.1

/-- A bit of a range is the bit of its number after the whole list: the writes before it are
overwritten, and those after it do not reach the bit. -/
theorem bitOf_insertAll_of_covers (inside : ∀ field ∈ fields, field.Inside bytes)
    (apart : fields.Pairwise Apart) (member : field ∈ fields) (covers : field.Covers position) :
    bitOf (insertAll bytes fields) position =
      field.value.testBit (position - field.start.toNat) := by
  induction fields generalizing bytes with
  | nil => simp at member
  | cons first fields ih =>
      rw [List.forall_mem_cons] at inside
      obtain ⟨firstApart, apart⟩ := List.pairwise_cons.1 apart
      have later : ∀ field ∈ fields, field.Inside
          (insertBits bytes first.start first.length first.value) :=
        fun field member => (inside.2 field member).insertBits ..
      rw [insertAll_cons]
      obtain rfl | member := List.mem_cons.1 member
      · -- this write sets the bit, and no later one reaches it
        have free : ∀ other ∈ fields, ¬ other.Covers position :=
          fun other member => firstApart other member position covers
        rw [bitOf_insertAll_of_not_covers _ free]
        exact bitOf_insertBits_of_inside inside.1 field.value covers.1 covers.2
      · exact ih later apart member

theorem insertAll_perm (inside : ∀ field ∈ fields, field.Inside bytes)
    (apart : fields.Pairwise Apart) (perm : others.Perm fields) :
    insertAll bytes others = insertAll bytes fields := by
  have inside' : ∀ field ∈ others, field.Inside bytes :=
    fun field member => inside field (perm.mem_iff.1 member)
  have apart' : others.Pairwise Apart := (perm.pairwise_iff Apart.symm).2 apart
  apply eq_of_bitOf_eq (by rw [length_insertAll, length_insertAll])
  -- in either order a bit is that of its only range, or as it was before
  intro position
  by_cases covered : ∃ field ∈ fields, field.Covers position
  · obtain ⟨field, member, covers⟩ := covered
    rw [bitOf_insertAll_of_covers inside apart member covers,
      bitOf_insertAll_of_covers inside' apart' (perm.mem_iff.2 member) covers]
  · have free : ∀ field ∈ fields, ¬ field.Covers position :=
      fun field member covers => covered ⟨field, member, covers⟩
    rw [bitOf_insertAll_of_not_covers bytes free, bitOf_insertAll_of_not_covers bytes
      fun field member => free field (perm.mem_iff.1 member)]

theorem extractBits_insertAll (inside : ∀ field ∈ fields, field.Inside bytes)
    (apart : fields.Pairwise Apart) (member : field ∈ fields) :
    extractBits (insertAll bytes fields) field.start field.length =
      field.value % 2 ^ field.length := by
  apply extractBits_eq_mod
  intro i below
  have covers : field.Covers (field.start.toNat + i) := ⟨by omega, by omega⟩
  rw [bitOf_insertAll_of_covers inside apart member covers, Nat.add_sub_cancel_left]

end BitField

namespace Session

variable {session : Session} {field : BitField} {fields : List BitField}

/-- In a buffer whose bits all have addresses a range that is inside can be written. -/
theorem perform_insert (addressed : session.buffer.contents.length ≤ 8192)
    (inside : field.Inside session.buffer.contents) :
    session.perform field.insert = (pure .done, session.withContents
      (insertBits session.buffer.contents field.start field.length field.value)) := by
  simp [BitField.insert, perform, answered, insertBits?_of_le (inside.addressed addressed)]

theorem perform_extract (addressed : session.buffer.contents.length ≤ 8192)
    (inside : field.Inside session.buffer.contents) :
    session.perform field.extract =
      (pure (.bits (extractBits session.buffer.contents field.start field.length)), session) := by
  simp [BitField.extract, perform, answered, extractBits?_of_le (inside.addressed addressed)]

/-- A list of writes leaves the bytes after them, and changes nothing else. -/
theorem unbroken_inserts (session : Session)
    (addressed : session.buffer.contents.length ≤ 8192)
    (inside : ∀ field ∈ fields, field.Inside session.buffer.contents) :
    session.Unbroken (fields.map BitField.insert) ∧
      session.after (fields.map BitField.insert) =
        session.withContents (BitField.insertAll session.buffer.contents fields) := by
  induction fields generalizing session with
  | nil => simp [Unbroken, withContents]
  | cons field fields ih =>
      rw [List.forall_mem_cons] at inside
      obtain ⟨unbroken, after⟩ := ih (session.withContents
          (insertBits session.buffer.contents field.start field.length field.value))
        (by simpa [withContents] using addressed)
        (fun field member => (inside.2 field member).insertBits ..)
      rw [List.map_cons, Unbroken, after_cons, perform_insert addressed inside.1, after]
      exact ⟨⟨by simp, unbroken⟩, rfl⟩

/-- **Writes to ranges apart from one another.**  In a buffer whose bits all have addresses, let
numbers be written to ranges inside the buffer of which no two share a bit.  In every order the
writes leave the same bytes, as many as before; every range is then read as the low bits of its
number; and every bit outside the ranges is as it was before. -/
theorem inserts_apart (session : Session) (fields : List BitField)
    (addressed : session.buffer.contents.length ≤ 8192)
    (inside : ∀ field ∈ fields,
      field.start.toNat + field.length ≤ 8 * session.buffer.contents.length)
    (apart : fields.Pairwise BitField.Apart) :
    ∃ contents : List UInt8,
      contents.length = session.buffer.contents.length ∧
      (∀ calls : List BitField, calls.Perm fields →
        session.Unbroken (calls.map BitField.insert) ∧
          session.after (calls.map BitField.insert) = session.withContents contents) ∧
      (∀ field ∈ fields, (session.withContents contents).perform field.extract =
        (pure (.bits (field.value % 2 ^ field.length)), session.withContents contents)) ∧
      ∀ position, (∀ field ∈ fields, ¬ field.Covers position) →
        bitOf contents position = bitOf session.buffer.contents position := by
  have size := BitField.length_insertAll session.buffer.contents fields
  refine ⟨BitField.insertAll session.buffer.contents fields, size, ?_, ?_, fun _ =>
    BitField.bitOf_insertAll_of_not_covers session.buffer.contents⟩
  · intro calls perm
    have inside' : ∀ field ∈ calls, field.Inside session.buffer.contents :=
      fun field member => inside field (perm.mem_iff.1 member)
    rw [← BitField.insertAll_perm inside apart perm]
    exact unbroken_inserts session addressed inside'
  · intro field member
    have within : field.Inside (BitField.insertAll session.buffer.contents fields) := by
      rw [BitField.Inside, size]
      exact inside field member
    rw [← BitField.extractBits_insertAll inside apart member]
    exact perform_extract (size.trans_le addressed) within

/-- Twelve bits that begin in the middle of a byte, and three that begin in the middle of the last
one that they reach. -/
def twelveBesideThree : List BitField := [⟨4, 12, 0xFABC⟩, ⟨17, 3, 2⟩]

/-- The later range is written first; the bits between the two ranges and around them stay set, and
of the four digits of the first number three are read. -/
theorem inserts_apart_twelveBesideThree :
    (∀ field ∈ twelveBesideThree, field.start.toNat + field.length ≤ 8 * 3) ∧
      twelveBesideThree.Pairwise BitField.Apart ∧
      ∃ after, Session.after ⟨⟨[0xFF, 0xFF, 0xFF], none⟩, 0⟩
          (twelveBesideThree.reverse.map BitField.insert) = after ∧
        after.buffer.contents = [0xCF, 0xAB, 0xF5] ∧
        (after.perform (.extractBits 4 12)).1.outcome = .ok (.bits 0xABC) := by
  have inside : ∀ field ∈ twelveBesideThree, field.start.toNat + field.length ≤ 8 * 3 := by
    decide
  have apart : twelveBesideThree.Pairwise BitField.Apart := by
    rw [twelveBesideThree, List.pairwise_pair]
    rintro position ⟨-, below⟩ ⟨above, -⟩
    exact absurd (above.trans_lt below) (by decide)
  obtain ⟨contents, -, orders, reads, -⟩ := inserts_apart ⟨⟨[0xFF, 0xFF, 0xFF], none⟩, 0⟩
    twelveBesideThree (by decide) inside apart
  have first := orders twelveBesideThree (List.Perm.refl _)
  have twelve := reads ⟨4, 12, 0xFABC⟩ (List.mem_cons_self ..)
  refine ⟨inside, apart, _, (orders _ (List.reverse_perm _)).2, ?_, ?_⟩
  · rw [← first.2]
    rfl
  · exact congrArg (fun answer => answer.1.outcome) twelve

end Session

end DeviceProperty
