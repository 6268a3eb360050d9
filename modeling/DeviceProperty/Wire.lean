/-
**Fields and ranges of bits on the wire.**

A field of `bits` bits takes the least number of whole bytes that holds them, least significant
byte first.  A negative code is written as its two's complement pattern of that many bits, and the
bits above stay clear.  Reading takes the low bits of the bytes, and in a signed field the top one
of them carries the sign.

Where two fields share a byte, a record is addressed by the bit: bit `0` is the least significant
bit of the first byte.  Bits beyond the end of the record read as clear and are lost when written.
The address of a bit is a 16-bit word, and an operation on a range with a bit past the last address
breaks off.  That a range has one to 64 bits is for the caller to see to.

Main definitions:

* `DeviceProperty.bytesOfNat`, `DeviceProperty.natOfBytes` — numbers as bytes;
* `DeviceProperty.Field.byteCount` — the bytes a field takes;
* `DeviceProperty.Field.write`, `DeviceProperty.Field.read` — a field on the wire;
* `DeviceProperty.Field.writeHalts`, `DeviceProperty.Field.readHalts` — where they break off;
* `DeviceProperty.bitOf`, `DeviceProperty.setBitAt` — one bit of a record;
* `DeviceProperty.extractBits?`, `DeviceProperty.insertBits?` — a range of bits, if every bit of it
  has an address;
* `DeviceProperty.extractBits`, `DeviceProperty.insertBits` — the same for a range that is known to
  have addresses.

Main results:

* `DeviceProperty.natOfBytes_bytesOfNat` — a number that fits comes back from its bytes;
* `DeviceProperty.extractBits_lt` — a range of `length` bits is a number of that many bits;
* `DeviceProperty.extractBits?_eq`, `DeviceProperty.insertBits?_eq` — **an operation on a range
  breaks off exactly when a bit of it has no address**.
-/

import DeviceProperty.Number.Basic

set_option relaxedAutoImplicit false
set_option autoImplicit false

namespace DeviceProperty

/-! ### Numbers as bytes -/

/-- The low `count` bytes of a number, least significant first. -/
def bytesOfNat : Nat → Nat → List UInt8
  | 0, _ => []
  | count + 1, n => UInt8.ofNat (n % 256) :: bytesOfNat count (n / 256)

/-- The number whose bytes are given, least significant first. -/
def natOfBytes : List UInt8 → Nat
  | [] => 0
  | byte :: rest => byte.toNat + 256 * natOfBytes rest

@[simp] theorem length_bytesOfNat (count n : Nat) : (bytesOfNat count n).length = count := by
  induction count generalizing n with
  | zero => rfl
  | succ count ih => simp [bytesOfNat, ih]

theorem natOfBytes_bytesOfNat (count n : Nat) :
    natOfBytes (bytesOfNat count n) = n % twoPow (8 * count) := by
  induction count generalizing n with
  | zero => simp [bytesOfNat, natOfBytes, Nat.mod_one]
  | succ count ih =>
      have byte : (UInt8.ofNat (n % 256)).toNat = n % 256 := by
        simp [UInt8.toNat_ofNat']
      have scale : twoPow (8 * (count + 1)) = 256 * twoPow (8 * count) := by
        rw [Nat.mul_add, Nat.add_comm, twoPow_add]; rfl
      rw [bytesOfNat, natOfBytes, ih, byte, scale, Nat.mod_mul]

theorem natOfBytes_lt (bytes : List UInt8) : natOfBytes bytes < twoPow (8 * bytes.length) := by
  induction bytes with
  | nil => simp [natOfBytes]
  | cons byte rest ih =>
      have := byte.toNat_lt
      have scale : twoPow (8 * (rest.length + 1)) = 256 * twoPow (8 * rest.length) := by
        rw [Nat.mul_add, Nat.add_comm, twoPow_add]; rfl
      rw [natOfBytes, List.length_cons, scale]
      omega

namespace Field

/-! ### Bit patterns -/

/-- The bytes a field of `bits` bits takes. -/
def byteCount (bits : Nat) : Nat := (bits + 7) / 8

/-- The pattern with the low `bits` bits set, and no bit above 64. -/
def mask (bits : Nat) : Nat := twoPow (min bits 64) - 1

/-- The two's complement pattern of a 64-bit code in the low `bits` bits. -/
def pattern (bits : Nat) (code : Int) : Nat := (code % twoPow (min bits 64)).toNat

/-- The signed code that the low `bits` bits of a pattern stand for. -/
def signed (bits : Nat) (pattern : Nat) : Int := Int.bmod pattern (twoPow (min bits 64))

/-- Whether finding the signed code breaks off: the top bit of the pattern is looked for. -/
def signHalts (bits : Nat) : Bool := bits = 0 || 64 < bits

/-- The unsigned code that the low `bits` bits of a pattern stand for.  Codes are 64-bit signed
numbers, so a pattern of the full width is read as one of them. -/
def unsigned (bits : Nat) (pattern : Nat) : Int :=
  Int.bmod (pattern % twoPow (min bits 64) : Nat) (twoPow 64)

/-! ### Fields -/

/-- The bytes of a field that holds a code. -/
def write (bits : Nat) (code : Int) : List UInt8 :=
  bytesOfNat (byteCount bits) (pattern bits code)

/-- Whether writing a field breaks off: its bytes are taken from a 64-bit word. -/
def writeHalts (bits : Nat) : Bool := 8 < byteCount bits

/-- The code held by the first bytes of a list, read as a field. -/
def read (bits : Nat) (isSigned : Bool) (bytes : List UInt8) : Int :=
  let raw := natOfBytes (bytes.take (byteCount bits))
  if isSigned then signed bits raw else unsigned bits raw

/-- Whether reading a field breaks off: its bytes are put into a 64-bit word. -/
def readHalts (bits : Nat) (isSigned : Bool) : Bool :=
  8 < byteCount bits || isSigned && signHalts bits

@[simp] theorem length_write (bits : Nat) (code : Int) :
    (write bits code).length = byteCount bits := length_bytesOfNat ..

end Field

/-! ### Bits -/

/-- Bit `position` of a record, clear beyond its end. -/
def bitOf (bytes : List UInt8) (position : Nat) : Bool :=
  match bytes[position / 8]? with
  | some byte => byte.toNat.testBit (position % 8)
  | none => false

/-- A byte with one bit set or cleared. -/
def setBitOfByte (byte : UInt8) (index : Nat) (bit : Bool) : UInt8 :=
  let weight : UInt8 := UInt8.ofNat (twoPow index)
  if bit then byte ||| weight else byte &&& ~~~weight

/-- A record with bit `position` set or cleared. -/
def setBitAt (bytes : List UInt8) (position : Nat) (bit : Bool) : List UInt8 :=
  bytes.modify (position / 8) fun byte => setBitOfByte byte (position % 8) bit

@[simp] theorem length_setBitAt (bytes : List UInt8) (position : Nat) (bit : Bool) :
    (setBitAt bytes position bit).length = bytes.length := by
  simp [setBitAt]

/-! ### Ranges of bits -/

/-- The number held by `length` bits from an address on, least significant bit first. -/
def extractBits (bytes : List UInt8) (start : UInt16) : Nat → Nat
  | 0 => 0
  | length + 1 =>
      extractBits bytes start length + (bitOf bytes (start.toNat + length)).toNat * twoPow length

/-- A record with the low `length` bits of a number written from an address on. -/
def insertBits (bytes : List UInt8) (start : UInt16) : Nat → Nat → List UInt8
  | 0, _ => bytes
  | length + 1, value =>
      setBitAt (insertBits bytes start length value) (start.toNat + length) (value.testBit length)

@[simp] theorem length_insertBits (bytes : List UInt8) (start : UInt16) (length value : Nat) :
    (insertBits bytes start length value).length = bytes.length := by
  induction length with
  | zero => rfl
  | succ length ih => simp [insertBits, ih]

theorem extractBits_lt (bytes : List UInt8) (start : UInt16) (length : Nat) :
    extractBits bytes start length < twoPow length := by
  induction length with
  | zero => simp [extractBits]
  | succ length ih =>
      have bit : (bitOf bytes (start.toNat + length)).toNat * twoPow length ≤ 1 * twoPow length :=
        Nat.mul_le_mul_right _ (Nat.le_of_lt_succ (Bool.toNat_lt _))
      rw [extractBits, twoPow_succ]
      omega

/-! ### Addresses -/

/-- The position `offset` bits after an address, if it is an address too. -/
def address? (start : UInt16) (offset : Nat) : Option Nat :=
  if start.toNat + offset < twoPow 16 then some (start.toNat + offset) else none

/-- The number held by `length` bits from an address on, bit after bit; none if one of them has no
address. -/
def extractBits? (bytes : List UInt8) (start : UInt16) : Nat → Option Nat
  | 0 => some 0
  | length + 1 => do
      let low ← extractBits? bytes start length
      let position ← address? start length
      return low + (bitOf bytes position).toNat * twoPow length

/-- A record with the low `length` bits of a number written from an address on, bit after bit; none
if one of them has no address. -/
def insertBits? (bytes : List UInt8) (start : UInt16) : Nat → Nat → Option (List UInt8)
  | 0, _ => some bytes
  | length + 1, value => do
      let written ← insertBits? bytes start length value
      let position ← address? start length
      return setBitAt written position (value.testBit length)

theorem extractBits?_eq (bytes : List UInt8) (start : UInt16) (length : Nat) :
    extractBits? bytes start length =
      if start.toNat + length ≤ twoPow 16 then some (extractBits bytes start length) else none := by
  have words : twoPow 16 = 65536 := rfl
  have := start.toNat_lt
  induction length with
  | zero => rw [if_pos (by omega)]; rfl
  | succ length ih =>
      rw [extractBits?, ih, address?]
      by_cases last : start.toNat + (length + 1) ≤ twoPow 16
      · rw [if_pos (by omega), if_pos (by omega), if_pos last]
        rfl
      · -- whether or not a bit before it has one, the last bit has no address
        rw [if_neg (by omega : ¬ start.toNat + length < twoPow 16), if_neg last]
        split <;> rfl

theorem insertBits?_eq (bytes : List UInt8) (start : UInt16) (length value : Nat) :
    insertBits? bytes start length value =
      if start.toNat + length ≤ twoPow 16 then some (insertBits bytes start length value)
      else none := by
  have words : twoPow 16 = 65536 := rfl
  have := start.toNat_lt
  induction length with
  | zero => rw [if_pos (by omega)]; rfl
  | succ length ih =>
      rw [insertBits?, ih, address?]
      by_cases last : start.toNat + (length + 1) ≤ twoPow 16
      · rw [if_pos (by omega), if_pos (by omega), if_pos last]
        rfl
      · rw [if_neg (by omega : ¬ start.toNat + length < twoPow 16), if_neg last]
        split <;> rfl

theorem extractBits?_of_le {start : UInt16} {length : Nat} (h : start.toNat + length ≤ 65536)
    (bytes : List UInt8) :
    extractBits? bytes start length = some (extractBits bytes start length) :=
  (extractBits?_eq ..).trans (if_pos h)

theorem insertBits?_of_le {start : UInt16} {length : Nat} (h : start.toNat + length ≤ 65536)
    (bytes : List UInt8) (value : Nat) :
    insertBits? bytes start length value = some (insertBits bytes start length value) :=
  (insertBits?_eq ..).trans (if_pos h)

end DeviceProperty
