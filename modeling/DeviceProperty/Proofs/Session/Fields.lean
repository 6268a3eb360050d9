/-
**A session of fields.**

Fields are appended one after another, and are read one after another from the read position.  The
fields may have any widths, whether or not they fill their bytes, and the codes any size: a code
that its width cannot carry leaves its low bits.  This module follows a whole list of fields through
a buffer: what is written is one run of bytes after all that was there before, with clear padding,
and reading the same widths from the start of this run finds the low bits of every code, whatever
the padding holds and whatever comes after, and stops where the run ends.

Main definitions:

* `DeviceProperty.FieldCode` — a code with the width of its field;
* `DeviceProperty.FieldCode.bytesOf`, `DeviceProperty.FieldCode.place` — the bytes of a list of
  fields, and where each field begins.

Main results:

* `DeviceProperty.Session.unbroken_puts`, `DeviceProperty.Session.unbroken_gets` — a list of fields
  is written, or read, to its end;
* `DeviceProperty.Session.getElem?_run_gets` — the codes that are read;
* `DeviceProperty.Session.fields_there_and_back` — **fields, there and back**.
-/

import Mathlib
import DeviceProperty.Proofs.Session.Appending

set_option relaxedAutoImplicit false
set_option autoImplicit false

namespace DeviceProperty

/-- A code, and the width of the field that holds it. -/
structure FieldCode where
  width : Width
  code : ℤ
deriving DecidableEq, Repr

namespace FieldCode

variable {field : FieldCode} {fields : List FieldCode}

def put (field : FieldCode) : Step := .putField field.code field.width.bits

def get (field : FieldCode) : Step := .getField field.width.bits field.width.signed

def bytes (field : FieldCode) : List UInt8 := Field.write field.width.bits field.code

@[simp] theorem length_bytes (field : FieldCode) : field.bytes.length = field.width.byteCount :=
  Field.length_write ..

/-! ### Bytes of a list of fields -/

/-- The bytes of a list of fields, one after another. -/
def bytesOf (fields : List FieldCode) : List UInt8 := fields.flatMap bytes

/-- Where the field at a place begins: after the bytes of the fields before it. -/
def place (fields : List FieldCode) (i : ℕ) : ℕ := ((fields.take i).map (·.width.byteCount)).sum

@[simp] theorem place_zero (fields : List FieldCode) : place fields 0 = 0 := rfl

@[simp] theorem place_cons_succ (field : FieldCode) (fields : List FieldCode) (i : ℕ) :
    place (field :: fields) (i + 1) = field.width.byteCount + place fields i := rfl

theorem length_bytesOf (fields : List FieldCode) :
    (bytesOf fields).length = (fields.map (·.width.byteCount)).sum := by
  simp [bytesOf, List.length_flatMap]

/-- From its place on, the bytes of a list of fields begin with those of the field. -/
theorem exists_drop_bytesOf {i : ℕ} (hi : fields[i]? = some field) :
    ∃ rest, (bytesOf fields).drop (place fields i) = field.bytes ++ rest := by
  induction fields generalizing i with
  | nil => simp at hi
  | cons first fields ih =>
      cases i with
      | zero =>
          obtain rfl := Option.some.inj hi
          exact ⟨bytesOf fields, rfl⟩
      | succ i =>
          obtain ⟨rest, hrest⟩ := ih hi
          have split : bytesOf (first :: fields) = first.bytes ++ bytesOf fields := rfl
          refine ⟨rest, ?_⟩
          rw [split, place_cons_succ, ← List.drop_drop, List.drop_left' first.length_bytes, hrest]

theorem place_add_byteCount_le {i : ℕ} (hi : fields[i]? = some field) :
    place fields i + field.width.byteCount ≤ (bytesOf fields).length := by
  obtain ⟨hlt, rfl⟩ := List.getElem?_eq_some_iff.1 hi
  have split := List.sum_take_add_sum_drop (fields.map (·.width.byteCount)) i
  have head : (fields.drop i).map (·.width.byteCount) =
      fields[i].width.byteCount :: (fields.drop (i + 1)).map (·.width.byteCount) := by
    rw [List.drop_eq_getElem_cons hlt, List.map_cons]
  rw [← List.map_take, ← List.map_drop, head, List.sum_cons] at split
  rw [length_bytesOf, place]
  omega

/-- The bits of a field, among those of all fields. -/
theorem bitOf_bytesOf {i : ℕ} (hi : fields[i]? = some field) {position : ℕ}
    (inside : position < 8 * field.width.byteCount) :
    bitOf (bytesOf fields) (8 * place fields i + position) = bitOf field.bytes position := by
  obtain ⟨rest, hrest⟩ := exists_drop_bytesOf hi
  rw [← bitOf_drop, hrest, bitOf_append_left rest (by rwa [length_bytes])]

/-- Where the bits below the width of a field are those that have been written, the field is read as
the code of its width with the low bits of its code. -/
theorem residue_read {i : ℕ} (hi : fields[i]? = some field) (readable : field.width.Readable)
    {altered : List UInt8} (hlength : altered.length = (bytesOf fields).length)
    (same : ∀ position < field.width.bits, bitOf altered (8 * place fields i + position) =
      bitOf (bytesOf fields) (8 * place fields i + position)) (suffix : List UInt8) :
    field.width.Residue field.code (Field.read field.width.bits field.width.signed
      ((altered ++ suffix).drop (place fields i))) := by
  have own := Field.residue_read_write_append readable field.code []
  rw [List.append_nil] at own
  have read : Field.read field.width.bits field.width.signed
      ((altered ++ suffix).drop (place fields i)) =
        Field.read field.width.bits field.width.signed field.bytes := by
    apply Field.read_congr readable
    intro position below
    have inside : position < 8 * field.width.byteCount := by
      rw [Width.byteCount, Field.byteCount]; omega
    have room := place_add_byteCount_le hi
    rw [bitOf_drop, bitOf_append_left suffix (by omega), same position below,
      bitOf_bytesOf hi inside]
  rwa [read]

end FieldCode

namespace Session

variable {session : Session} {fields : List FieldCode} {field : FieldCode}

/-! ### Writing and reading a list of fields -/

theorem perform_put (session : Session) (readable : field.width.Readable) :
    session.perform field.put =
      (pure .done, session.withContents (session.buffer.contents ++ field.bytes)) := by
  simp [FieldCode.put, perform, answered, readable.writeHalts_eq_false, FieldCode.bytes]

/-- Appending a list of fields adds their bytes at the end, and changes nothing else. -/
theorem unbroken_puts (session : Session) (readable : ∀ field ∈ fields, field.width.Readable) :
    session.Unbroken (fields.map FieldCode.put) ∧
      session.after (fields.map FieldCode.put) =
        session.withContents (session.buffer.contents ++ FieldCode.bytesOf fields) := by
  induction fields generalizing session with
  | nil => simp [Unbroken, FieldCode.bytesOf, withContents]
  | cons field fields ih =>
      rw [List.forall_mem_cons] at readable
      have split : FieldCode.bytesOf (field :: fields) = field.bytes ++ FieldCode.bytesOf fields :=
        rfl
      obtain ⟨unbroken, after⟩ :=
        ih (session.withContents (session.buffer.contents ++ field.bytes)) readable.2
      rw [List.map_cons, Unbroken, after_cons, perform_put session readable.1, after, split,
        ← List.append_assoc]
      exact ⟨⟨by simp, unbroken⟩, rfl⟩

theorem perform_get (session : Session) (readable : field.width.Readable)
    (enough : session.position + field.width.byteCount ≤ session.buffer.contents.length) :
    session.perform field.get =
      (pure (.code (Field.read field.width.bits field.width.signed
          (session.buffer.contents.drop session.position))),
        { session with position := session.position + field.width.byteCount }) := by
  have covered : session.isShortOf field.width.bits = false := decide_eq_false enough.not_gt
  simp [FieldCode.get, perform, answered, readable.readHalts_eq_false, covered, Width.byteCount]

/-- Reading a list of fields moves the read position past their bytes, and changes nothing else. -/
theorem unbroken_gets (session : Session) (readable : ∀ field ∈ fields, field.width.Readable)
    (enough : session.position + (fields.map (·.width.byteCount)).sum ≤
      session.buffer.contents.length) :
    session.Unbroken (fields.map FieldCode.get) ∧
      session.after (fields.map FieldCode.get) =
        { session with
          position := session.position + (fields.map (·.width.byteCount)).sum } := by
  induction fields generalizing session with
  | nil => simp [Unbroken]
  | cons field fields ih =>
      rw [List.forall_mem_cons] at readable
      rw [List.map_cons, List.sum_cons, ← Nat.add_assoc] at enough
      have own : session.position + field.width.byteCount ≤ session.buffer.contents.length :=
        (Nat.le_add_right _ _).trans enough
      obtain ⟨unbroken, after⟩ := ih
        { session with position := session.position + field.width.byteCount } readable.2 enough
      rw [List.map_cons, Unbroken, after_cons, perform_get session readable.1 own, after,
        List.map_cons, List.sum_cons, ← Nat.add_assoc]
      exact ⟨⟨by simp, unbroken⟩, rfl⟩

/-- Every field is read where it begins, counted from the read position. -/
theorem getElem?_run_gets (session : Session) (readable : ∀ field ∈ fields, field.width.Readable)
    (enough : session.position + (fields.map (·.width.byteCount)).sum ≤
      session.buffer.contents.length) {i : ℕ} (hi : fields[i]? = some field) :
    ((session.run (fields.map FieldCode.get))[i]?).map (·.1.outcome) =
      some (.ok (.code (Field.read field.width.bits field.width.signed
        (session.buffer.contents.drop (session.position + FieldCode.place fields i))))) := by
  have inside := FieldCode.place_add_byteCount_le hi
  rw [FieldCode.length_bytesOf] at inside
  have first : ∀ field ∈ fields.take i, field.width.Readable :=
    fun field member => readable field (List.mem_of_mem_take member)
  have reached := (unbroken_gets session first (by rw [← FieldCode.place]; omega)).2
  rw [getElem?_run (unbroken_gets session readable enough).1, ← List.map_take, reached,
    List.getElem?_map, hi]
  simp only [Option.map_some]
  rw [perform_get _ (readable field (List.mem_of_getElem? hi))]
  · rfl
  · rw [← FieldCode.place]
    show session.position + FieldCode.place fields i + field.width.byteCount ≤
      session.buffer.contents.length
    omega

/-! ### There and back -/

/-- **Fields, there and back.**  Appending a list of fields leaves what was in the buffer and adds
one run of bytes, a whole number of them for each field, with the bits above its width clear.
Wherever such a run stands, with any padding and anything before and after it, reading the same
widths from its start finds for every field the code of the width with the low bits of its own code,
which is its own code exactly when the width can carry it, and the read position is left at the end
of the run. -/
theorem fields_there_and_back (session : Session) (fields : List FieldCode)
    (readable : ∀ field ∈ fields, field.width.Readable) :
    ∃ region : List UInt8,
      session.Unbroken (fields.map FieldCode.put) ∧
      session.after (fields.map FieldCode.put) =
        session.withContents (session.buffer.contents ++ region) ∧
      region.length = (fields.map fun field => (field.width.bits + 7) / 8).sum ∧
      (∀ (i : ℕ) (field : FieldCode), fields[i]? = some field →
        ∀ position, field.width.bits ≤ position → position < 8 * field.width.byteCount →
          bitOf region (8 * FieldCode.place fields i + position) = false) ∧
      ∀ (reader : Session) (before altered suffix : List UInt8), altered.length = region.length →
        (∀ (i : ℕ) (field : FieldCode), fields[i]? = some field →
          ∀ position < field.width.bits, bitOf altered (8 * FieldCode.place fields i + position) =
            bitOf region (8 * FieldCode.place fields i + position)) →
        reader.buffer.contents = before ++ altered ++ suffix → reader.position = before.length →
          (∀ (i : ℕ) (field : FieldCode), fields[i]? = some field → ∃ code,
            ((reader.run (fields.map FieldCode.get))[i]?).map (·.1.outcome) =
              some (.ok (.code code)) ∧
            field.width.Residue field.code code ∧
            (∀ other, field.width.Residue field.code other → other = code) ∧
            (field.width.bits ≤ 62 →
              (code = field.code ↔ field.width.fits field.code = true))) ∧
          reader.after (fields.map FieldCode.get) =
            { reader with position := (before ++ altered).length } := by
  obtain ⟨unbroken, written⟩ := unbroken_puts session readable
  have size := FieldCode.length_bytesOf fields
  refine ⟨FieldCode.bytesOf fields, unbroken, written, size, ?_, ?_⟩
  · intro i field hi position above inside
    rw [FieldCode.bitOf_bytesOf hi inside]
    exact Field.bitOf_write_of_le above _
  · intro reader before altered suffix hlength same hcontents hposition
    have enough : reader.position + (fields.map (·.width.byteCount)).sum ≤
        reader.buffer.contents.length := by
      rw [hcontents, hposition, ← size, ← hlength, List.length_append, List.length_append]
      omega
    constructor
    · intro i field hi
      have width := readable field (List.mem_of_getElem? hi)
      have found : reader.buffer.contents.drop (reader.position + FieldCode.place fields i) =
          (altered ++ suffix).drop (FieldCode.place fields i) := by
        rw [hcontents, hposition, List.append_assoc, ← List.drop_drop, List.drop_left]
      have residue := FieldCode.residue_read hi width hlength (same i field hi) suffix
      rw [← found] at residue
      refine ⟨_, getElem?_run_gets reader readable enough hi, residue, ?_, ?_⟩
      · intro other hother
        exact hother.unique width.pos residue
      · exact fun _ => residue.eq_iff_fits width.pos
    · rw [(unbroken_gets reader readable enough).2, hposition, List.length_append, hlength, size]

/-- Twelve bits with a sign, and three bits of a code that needs four. -/
def twelveAndThree : List FieldCode := [⟨.twosComplement 12, -2⟩, ⟨.unsigned 3, 13⟩]

/-- The negative code comes back, and five of thirteen, from between two other bytes and with all
padding set. -/
theorem fields_there_and_back_twelveAndThree :
    (∀ field ∈ twelveAndThree, field.width.Readable) ∧
      (Session.after ⟨⟨[0x11], none⟩, 0⟩ (twelveAndThree.map FieldCode.put)).buffer.contents =
        [0x11, 0xFE, 0x0F, 0x05] ∧
      ((Session.run ⟨⟨[0x22, 0xFE, 0xFF, 0xFD, 0x33], none⟩, 1⟩
        (twelveAndThree.map FieldCode.get))[1]?).map (·.1.outcome) = some (.ok (.code 5)) ∧
      (Session.after ⟨⟨[0x22, 0xFE, 0xFF, 0xFD, 0x33], none⟩, 1⟩
        (twelveAndThree.map FieldCode.get)).position = 4 := by
  have readable : ∀ field ∈ twelveAndThree, field.width.Readable := by
    intro field member
    simp only [twelveAndThree, List.mem_cons, List.not_mem_nil, or_false] at member
    rcases member with rfl | rfl
    · exact .of_le (by decide) (by decide)
    · exact .of_le (by decide) (by decide)
  obtain ⟨region, -, written, -, -, back⟩ :=
    fields_there_and_back ⟨⟨[0x11], none⟩, 0⟩ twelveAndThree readable
  have contents : (Session.after ⟨⟨[0x11], none⟩, 0⟩
      (twelveAndThree.map FieldCode.put)).buffer.contents = [0x11, 0xFE, 0x0F, 0x05] := by
    rfl
  obtain rfl : region = [0xFE, 0x0F, 0x05] := by
    rw [written] at contents
    exact (List.cons.inj contents).2
  -- below the widths nothing has been altered
  have same : ∀ (i : ℕ) (field : FieldCode), twelveAndThree[i]? = some field →
      ∀ position < field.width.bits,
        bitOf [0xFE, 0xFF, 0xFD] (8 * FieldCode.place twelveAndThree i + position) =
          bitOf [0xFE, 0x0F, 0x05] (8 * FieldCode.place twelveAndThree i + position) := by
    intro i field hi
    match i, hi with
    | 0, hi => obtain rfl := Option.some.inj hi; decide
    | 1, hi => obtain rfl := Option.some.inj hi; decide
  obtain ⟨codes, after⟩ := back ⟨⟨[0x22, 0xFE, 0xFF, 0xFD, 0x33], none⟩, 1⟩ [0x22]
    [0xFE, 0xFF, 0xFD] [0x33] rfl same rfl rfl
  obtain ⟨code, answered, -, only, -⟩ := codes 1 _ rfl
  obtain rfl : 5 = code := only 5 ⟨by decide, by decide, by decide⟩
  exact ⟨readable, contents, answered, by rw [after]; rfl⟩

end Session

end DeviceProperty
