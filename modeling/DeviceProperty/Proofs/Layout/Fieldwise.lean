/-
**Records, field by field.**

The functions that turn the readings of a record into codes and back go through two lists in step
and stop at the first fault.  When they give a result, every field has given one, which is stated as
a relation that holds in every field; the bytes of a record are related to its codes by the place at
which each field begins.

When they give none, the record was refused for its shape before any of its fields was looked at, or
for the first field that fails; the fields after it do not matter.  Nothing in this module asks the
numbers of a format to agree with one another.

Main definitions:

* `DeviceProperty.Fieldwise` — a relation that holds in every field of a record;
* `DeviceProperty.offset`, `DeviceProperty.segment`, `DeviceProperty.codeAt` — where a field begins,
  its bytes, and the code it holds;
* `DeviceProperty.FirstFault` — the first field in which a step fails, with the cause;
* `DeviceProperty.RecordAnswer` — an answer that depends on the shape and on the first fault.

Main results:

* `DeviceProperty.stepFields_eq_ok_iff`, `DeviceProperty.stepFields_eq_error_iff` — **a step through
  the fields succeeds field by field**, and fails with its first fault;
* `DeviceProperty.segment_joinCodes` — the bytes of a field hold its code and nothing else;
* `DeviceProperty.splitCodes_joinCodes`, `DeviceProperty.joinCodes_splitCodes` — codes come back
  from the bytes of a record, and bytes from its codes;
* `DeviceProperty.Layout.recordAnswer_encode`, `DeviceProperty.Layout.recordAnswer_decode` — the
  answers of the two directions.
-/

import Mathlib
import DeviceProperty.Layout.Codec
import DeviceProperty.Proofs.Wire.Field

set_option relaxedAutoImplicit false
set_option autoImplicit false

namespace DeviceProperty

/-! ### Relations that hold in every field -/

/-- A relation between two lists that holds in every field: the lists have an entry for every
channel, and the two entries of a channel are related. -/
inductive Fieldwise {α β : Type} (relation : Channel → α → β → Prop) :
    List Channel → List α → List β → Prop
  | nil : Fieldwise relation [] [] []
  | cons {channel : Channel} {channels : List Channel} {a : α} {as : List α} {b : β} {bs : List β}
      (head : relation channel a b) (tail : Fieldwise relation channels as bs) :
      Fieldwise relation (channel :: channels) (a :: as) (b :: bs)

namespace Fieldwise

variable {α β γ : Type} {relation : Channel → α → β → Prop} {channels : List Channel}
  {as : List α} {bs : List β}

theorem length_left (h : Fieldwise relation channels as bs) : as.length = channels.length := by
  induction h with
  | nil => rfl
  | cons head tail ih => simp [ih]

theorem length_right (h : Fieldwise relation channels as bs) : bs.length = channels.length := by
  induction h with
  | nil => rfl
  | cons head tail ih => simp [ih]

theorem get (h : Fieldwise relation channels as bs) {i : ℕ} {channel : Channel}
    (hi : channels[i]? = some channel) :
    ∃ a b, as[i]? = some a ∧ bs[i]? = some b ∧ relation channel a b := by
  induction h generalizing i with
  | nil => simp at hi
  | cons head tail ih =>
      cases i with
      | zero =>
          obtain rfl := Option.some.inj hi
          exact ⟨_, _, rfl, rfl, head⟩
      | succ i => exact ih hi

theorem get_next {next : Channel → β → γ → Prop} {cs : List γ}
    (h : Fieldwise relation channels as bs) (hnext : Fieldwise next channels bs cs) {i : ℕ}
    {channel : Channel} (hi : channels[i]? = some channel) :
    ∃ a b c, as[i]? = some a ∧ cs[i]? = some c ∧ relation channel a b ∧ next channel b c := by
  obtain ⟨a, b, ha, hb, first⟩ := h.get hi
  obtain ⟨b', c, hb', hc, second⟩ := hnext.get hi
  obtain rfl : b = b' := Option.some.inj (hb.symm.trans hb')
  exact ⟨a, b, c, ha, hc, first, second⟩

theorem set (h : Fieldwise relation channels as bs) {i : ℕ} {channel : Channel} {a : α} {b : β}
    (hi : channels[i]? = some channel) (related : relation channel a b) :
    Fieldwise relation channels (as.set i a) (bs.set i b) := by
  induction h generalizing i with
  | nil => simp at hi
  | cons head tail ih =>
      cases i with
      | zero =>
          obtain rfl := Option.some.inj hi
          exact .cons related tail
      | succ i => exact .cons head (ih hi)

/-- The related entries, in the other order and under another relation that follows. -/
theorem swap {other : Channel → β → α → Prop} (h : Fieldwise relation channels as bs)
    (follows : ∀ channel ∈ channels, ∀ a b, relation channel a b → other channel b a) :
    Fieldwise other channels bs as := by
  induction h with
  | nil => exact .nil
  | cons head tail ih =>
      apply Fieldwise.cons (follows _ (by simp) _ _ head)
      apply ih
      intro channel member
      exact follows channel (List.mem_cons_of_mem _ member)

theorem exists_next {next : Channel → β → γ → Prop} (h : Fieldwise relation channels as bs)
    (onward : ∀ channel ∈ channels, ∀ a b, relation channel a b → ∃ c, next channel b c) :
    ∃ cs, Fieldwise next channels bs cs := by
  induction h with
  | nil => exact ⟨[], .nil⟩
  | @cons _ channels _ _ _ bs head tail ih =>
      obtain ⟨c, hc⟩ := onward _ (by simp) _ _ head
      have rest : ∃ cs, Fieldwise next channels bs cs := by
        apply ih
        intro channel member
        exact onward channel (List.mem_cons_of_mem _ member)
      obtain ⟨cs, hcs⟩ := rest
      exact ⟨c :: cs, .cons hc hcs⟩

end Fieldwise

/-! ### Steps through the fields -/

/-- A step through the fields has a result exactly when it has one in every field. -/
theorem stepFields_eq_ok_iff {α β : Type} {step : Format → α → Except Fault β} {index : ℕ}
    {channels : List Channel} {as : List α} {bs : List β} (hlength : as.length = channels.length) :
    stepFields step index channels as = .ok bs ↔
      Fieldwise (fun channel a b => step channel.format a = .ok b) channels as bs := by
  -- the place only appears in a fault, so it is as good as any other in the induction
  induction channels generalizing index as bs with
  | nil =>
      obtain rfl := List.length_eq_zero_iff.1 hlength
      constructor
      · intro h
        obtain rfl : bs = [] := (Except.ok.inj h).symm
        exact .nil
      · rintro ⟨⟩; rfl
  | cons channel channels ih =>
      obtain ⟨a, as, rfl⟩ := List.exists_cons_of_length_eq_add_one hlength
      have hrest : as.length = channels.length := by simpa using hlength
      rw [stepFields]
      constructor
      · intro h
        cases hstep : step channel.format a with
        | error fault => simp [hstep] at h
        | ok b =>
            cases htail : stepFields step (index + 1) channels as with
            | error fault => simp [hstep, htail, Except.map] at h
            | ok tail =>
                obtain rfl : b :: tail = bs := by simpa [hstep, htail, Except.map] using h
                exact .cons hstep ((ih hrest).1 htail)
      · rintro (_ | ⟨head, tail⟩)
        simp [head, (ih hrest).2 tail, Except.map]

/-- The reading of a channel is written as a code. -/
abbrev Writes (channel : Channel) (reading : Reading) (code : ℤ) : Prop :=
  channel.format.encode reading = .ok code

/-- The code of a channel is read as a reading. -/
abbrev Reads (channel : Channel) (code : ℤ) (reading : Reading) : Prop :=
  channel.format.decode code = .ok reading

/-! ### Places of fields -/

/-- Where the field at a place begins: after the bytes of the fields before it. -/
def offset (channels : List Channel) (i : ℕ) : ℕ := totalBytes (channels.take i)

/-- The bytes of the field of a channel at a place. -/
def segment (channels : List Channel) (i : ℕ) (channel : Channel) (bytes : List UInt8) :
    List UInt8 :=
  (bytes.drop (offset channels i)).take channel.format.byteCount

/-- The code that the field of a channel at a place holds. -/
def codeAt (channels : List Channel) (i : ℕ) (channel : Channel) (bytes : List UInt8) : ℤ :=
  Field.read channel.format.width.bits channel.format.width.signed
    (bytes.drop (offset channels i))

@[simp] theorem offset_zero (channels : List Channel) : offset channels 0 = 0 := rfl

@[simp] theorem offset_cons_succ (channel : Channel) (channels : List Channel) (i : ℕ) :
    offset (channel :: channels) (i + 1) = channel.format.byteCount + offset channels i := rfl

/-- The code at a place is read where the field begins. -/
theorem getElem?_splitCodes (channels : List Channel) (bytes : List UInt8) (i : ℕ) :
    (splitCodes channels bytes)[i]? =
      channels[i]?.map fun channel => codeAt channels i channel bytes := by
  induction channels generalizing bytes i with
  | nil => simp [splitCodes]
  | cons channel channels ih =>
      cases i with
      | zero => rfl
      | succ i =>
          simp only [splitCodes, List.getElem?_cons_succ, ih, codeAt, List.drop_drop,
            offset_cons_succ]
          rfl

/-- The bytes of a field hold its code and nothing else. -/
theorem segment_joinCodes {channels : List Channel} {codes : List ℤ} {i : ℕ} {channel : Channel}
    {code : ℤ} (hlength : codes.length = channels.length) (hi : channels[i]? = some channel)
    (hcode : codes[i]? = some code) :
    segment channels i channel (joinCodes channels codes) =
      Field.write channel.format.width.bits code := by
  induction channels generalizing codes i with
  | nil => simp at hi
  | cons first channels ih =>
      -- the first field ends where the second one begins
      obtain ⟨head, codes, rfl⟩ := List.exists_cons_of_length_eq_add_one hlength
      have size : (Field.write first.format.width.bits head).length = first.format.byteCount :=
        Field.length_write ..
      rw [joinCodes]
      cases i with
      | zero =>
          obtain rfl := Option.some.inj hi
          obtain rfl := Option.some.inj hcode
          rw [segment, offset_zero, List.drop_zero, List.take_left' size]
      | succ i =>
          have later := ih (by simpa using hlength) hi hcode
          rwa [segment, offset_cons_succ, ← List.drop_drop, List.drop_left' size]

/-! ### Codes and bytes -/

/-- Codes that fit their fields come back from the bytes of a record. -/
theorem splitCodes_joinCodes {α : Type} {relation : Channel → α → ℤ → Prop}
    {channels : List Channel} {as : List α} {codes : List ℤ}
    (h : Fieldwise relation channels as codes)
    (readable : ∀ channel ∈ channels, channel.format.width.Readable)
    (fits : ∀ channel ∈ channels, ∀ a code, relation channel a code →
      channel.format.width.fits code = true) :
    splitCodes channels (joinCodes channels codes) = codes := by
  induction h with
  | nil => rfl
  | @cons channel channels a as code codes head tail ih =>
      have own := fits channel (by simp) _ _ head
      have back := fun rest =>
        (Field.read_write_append_eq_iff (readable channel (by simp)) code rest).2 own
      have size : (Field.write channel.format.width.bits code).length =
          channel.format.width.byteCount := Field.length_write ..
      rw [joinCodes, splitCodes, back, List.drop_left' size,
        ih (fun other member => readable other (List.mem_cons_of_mem _ member))
          (fun other member => fits other (List.mem_cons_of_mem _ member))]

/-- A record whose fields have whole bytes comes back from its codes. -/
theorem joinCodes_splitCodes {channels : List Channel} {bytes : List UInt8}
    (bounds : ∀ channel ∈ channels, channel.format.width.bits % 8 = 0 ∧
      channel.format.width.Readable)
    (hlength : bytes.length = totalBytes channels) :
    joinCodes channels (splitCodes channels bytes) = bytes := by
  induction channels generalizing bytes with
  | nil => exact (List.length_eq_zero_iff.1 hlength).symm
  | cons channel channels ih =>
      obtain ⟨haligned, readable⟩ := bounds channel (by simp)
      have size : channel.format.width.byteCount ≤ bytes.length := by
        rw [hlength, totalBytes_cons]
        exact Nat.le_add_right _ _
      have rest : (bytes.drop channel.format.width.byteCount).length = totalBytes channels := by
        rw [List.length_drop, hlength, totalBytes_cons]
        exact Nat.add_sub_cancel_left _ _
      rw [splitCodes, joinCodes, Field.write_read haligned readable size,
        ih (fun other member => bounds other (List.mem_cons_of_mem _ member)) rest,
        List.take_append_drop]

/-! ### Records -/

namespace Layout

variable {layout : Layout}

theorem codes_eq_ok_iff {readings : List Reading} {codes : List ℤ} :
    layout.codes readings = .ok codes ↔ Fieldwise Writes layout.channels readings codes := by
  rw [Layout.codes]
  split_ifs with hcount
  · exact stepFields_eq_ok_iff hcount
  · refine iff_of_false (by simp) ?_
    intro written
    exact hcount written.length_left

/-- A record is written exactly when every field is. -/
theorem encode_eq_ok_iff {readings : List Reading} {bytes : List UInt8} :
    layout.encode readings = .ok bytes ↔
      ∃ codes, Fieldwise Writes layout.channels readings codes ∧
        joinCodes layout.channels codes = bytes := by
  simp only [Layout.encode, ← codes_eq_ok_iff]
  cases layout.codes readings <;> simp [Except.map]

/-- A record is read exactly when it has the right length and every field is read. -/
theorem decode_eq_ok_iff {bytes : List UInt8} {readings : List Reading} :
    layout.decode bytes = .ok readings ↔
      bytes.length = layout.byteCount ∧
        Fieldwise Reads layout.channels (splitCodes layout.channels bytes) readings := by
  rw [Layout.decode]
  split_ifs with hlength
  · simp only [hlength, true_and]
    exact stepFields_eq_ok_iff (length_splitCodes ..)
  · simp [hlength]

end Layout

/-! ### The first field that fails -/

section

variable {α β γ : Type} {step : Format → α → Except Fault β} {channels : List Channel}
  {as : List α}

/-- The first field in which a step fails: it fails at place `i`, for the channel that stands there,
and has a result at every place before. -/
structure FirstFault (step : Format → α → Except Fault β) (channels : List Channel) (as : List α)
    (i : ℕ) (channel : Channel) (cause : Fault) : Prop where
  place : channels[i]? = some channel
  fails : ∃ a, as[i]? = some a ∧ step channel.format a = .error cause
  before : ∀ j < i, ∀ (earlier : Channel) (a : α), channels[j]? = some earlier →
    as[j]? = some a → ∃ b, step earlier.format a = .ok b

theorem firstFault_zero_iff {channel first : Channel} {a : α} {cause : Fault} :
    FirstFault step (first :: channels) (a :: as) 0 channel cause ↔
      first = channel ∧ step channel.format a = .error cause := by
  constructor
  · rintro ⟨place, ⟨a', ha', failed⟩, -⟩
    obtain rfl := Option.some.inj place
    obtain rfl := Option.some.inj ha'
    exact ⟨rfl, failed⟩
  · rintro ⟨rfl, failed⟩
    refine ⟨rfl, ⟨a, rfl, failed⟩, ?_⟩
    intro j hj
    exact absurd hj (Nat.not_lt_zero j)

theorem firstFault_succ_iff {channel first : Channel} {a : α} {cause : Fault} {i : ℕ} :
    FirstFault step (first :: channels) (a :: as) (i + 1) channel cause ↔
      (∃ b, step first.format a = .ok b) ∧ FirstFault step channels as i channel cause := by
  constructor
  · rintro ⟨place, failed, before⟩
    refine ⟨before 0 (Nat.succ_pos i) first a rfl rfl, place, failed, ?_⟩
    intro j hj
    exact before (j + 1) (Nat.succ_lt_succ hj)
  · rintro ⟨head, place, failed, before⟩
    refine ⟨place, failed, ?_⟩
    intro j hj earlier a' hearlier ha'
    cases j with
    | zero =>
        obtain rfl := Option.some.inj hearlier
        obtain rfl := Option.some.inj ha'
        exact head
    | succ j => exact before j (Nat.lt_of_succ_lt_succ hj) earlier a' hearlier ha'

/-- A first fault is that of the first field, or it comes after a field that passes. -/
theorem exists_firstFault_cons_iff {head : Channel} {a : α} {found : ℕ → Channel → Fault → Prop} :
    (∃ i channel cause, FirstFault step (head :: channels) (a :: as) i channel cause ∧
        found i channel cause) ↔
      (∃ cause, step head.format a = .error cause ∧ found 0 head cause) ∨
        ((∃ b, step head.format a = .ok b) ∧ ∃ i channel cause,
          FirstFault step channels as i channel cause ∧ found (i + 1) channel cause) := by
  constructor
  · rintro ⟨i, channel, cause, first, hfound⟩
    cases i with
    | zero =>
        obtain ⟨rfl, failed⟩ := firstFault_zero_iff.1 first
        exact .inl ⟨cause, failed, hfound⟩
    | succ i =>
        obtain ⟨passed, later⟩ := firstFault_succ_iff.1 first
        exact .inr ⟨passed, i, channel, cause, later, hfound⟩
  · rintro (⟨cause, failed, hfound⟩ | ⟨passed, i, channel, cause, later, hfound⟩)
    · exact ⟨0, head, cause, firstFault_zero_iff.2 ⟨rfl, failed⟩, hfound⟩
    · exact ⟨i + 1, channel, cause, firstFault_succ_iff.2 ⟨passed, later⟩, hfound⟩

/-- A step through the fields fails in the first one, or after the first one has passed. -/
theorem stepFields_cons_eq_error_iff {index : ℕ} {head : Channel} {a : α} {fault : Fault} :
    stepFields step index (head :: channels) (a :: as) = .error fault ↔
      (∃ cause, step head.format a = .error cause ∧ fault = .inChannel index head.name cause) ∨
        ((∃ b, step head.format a = .ok b) ∧
          stepFields step (index + 1) channels as = .error fault) := by
  rw [stepFields]
  cases step head.format a with
  | error cause => simp [eq_comm]
  | ok b => cases stepFields step (index + 1) channels as <;> simp [Except.map]

/-- **A step through the fields fails with its first fault**, under its place, counted on from the
place of the first field, and the name of its channel. -/
theorem stepFields_eq_error_iff {index : ℕ} {fault : Fault} :
    stepFields step index channels as = .error fault ↔
      ∃ i channel cause, FirstFault step channels as i channel cause ∧
        fault = .inChannel (index + i) channel.name cause := by
  induction channels generalizing index as with
  | nil =>
      refine iff_of_false (by simp [stepFields]) ?_
      rintro ⟨i, channel, cause, first, -⟩
      simpa using first.place
  | cons head channels ih =>
      cases as with
      | nil =>
          refine iff_of_false (by simp [stepFields]) ?_
          rintro ⟨i, channel, cause, first, -⟩
          simpa using first.fails
      | cons a as =>
          -- the fields after the first one are one place further on
          simp only [stepFields_cons_eq_error_iff, ih, exists_firstFault_cons_iff, Nat.add_zero,
            Nat.add_assoc, Nat.add_comm 1]

/-- A step through the fields has a result exactly when it has one in every field. -/
theorem exists_stepFields_iff {index : ℕ} (hlength : as.length = channels.length) :
    (∃ bs, stepFields step index channels as = .ok bs) ↔
      ∀ (i : ℕ) (channel : Channel) (a : α), channels[i]? = some channel → as[i]? = some a →
        ∃ b, step channel.format a = .ok b := by
  constructor
  · rintro ⟨bs, h⟩ i channel a hchannel ha
    obtain ⟨a', b, ha', -, passed⟩ := ((stepFields_eq_ok_iff hlength).1 h).get hchannel
    obtain rfl := Option.some.inj (ha.symm.trans ha')
    exact ⟨b, passed⟩
  · intro passes
    cases h : stepFields step index channels as with
    | ok bs => exact ⟨bs, rfl⟩
    | error fault =>
        obtain ⟨i, channel, cause, first, -⟩ := stepFields_eq_error_iff.1 h
        obtain ⟨a, ha, failed⟩ := first.fails
        obtain ⟨b, passed⟩ := passes i channel a first.place ha
        cases failed.symm.trans passed

/-! ### Answers about a record -/

/-- An answer about a record: a fault of its own exactly for the wrong shape, and otherwise the
first fault of the fields, or a result if no field fails. -/
structure RecordAnswer (step : Format → α → Except Fault β) (channels : List Channel) (as : List α)
    (shaped : Prop) (misshapen : Fault) (answer : Except Fault γ) : Prop where
  shape : answer = .error misshapen ↔ ¬ shaped
  first : shaped → ∀ fault, answer = .error fault ↔
    ∃ i channel cause, FirstFault step channels as i channel cause ∧
      fault = .inChannel i channel.name cause
  succeeds : shaped → ((∃ result, answer = .ok result) ↔
    ∀ (i : ℕ) (channel : Channel) (a : α), channels[i]? = some channel → as[i]? = some a →
      ∃ b, step channel.format a = .ok b)

/-- Checking the shape and going through the fields then is such an answer, if the fault of the
shape is none that a field has. -/
theorem recordAnswer_stepFields {shaped : Prop} [Decidable shaped] {misshapen : Fault}
    {result : List β → γ} (hlength : shaped → as.length = channels.length)
    (own : ∀ i name cause, misshapen ≠ .inChannel i name cause) :
    RecordAnswer step channels as shaped misshapen
      (if shaped then (stepFields step 0 channels as).map result else .error misshapen) := by
  have failing : ∀ fault, (stepFields step 0 channels as).map result = .error fault ↔
      ∃ i channel cause, FirstFault step channels as i channel cause ∧
        fault = .inChannel i channel.name cause := by
    intro fault
    have kept : (stepFields step 0 channels as).map result = .error fault ↔
        stepFields step 0 channels as = .error fault := by
      cases stepFields step 0 channels as <;> simp [Except.map]
    rw [kept, stepFields_eq_error_iff]
    simp only [Nat.zero_add]
  have passing : (∃ value, (stepFields step 0 channels as).map result = .ok value) ↔
      ∃ bs, stepFields step 0 channels as = .ok bs := by
    cases stepFields step 0 channels as <;> simp [Except.map]
  split_ifs with hshaped
  · refine ⟨?_, fun _ => failing, fun _ => passing.trans (exists_stepFields_iff (hlength hshaped))⟩
    refine iff_of_false ?_ (not_not_intro hshaped)
    intro refused
    obtain ⟨i, channel, cause, -, same⟩ := (failing misshapen).1 refused
    exact own i channel.name cause same
  · exact ⟨by simp [hshaped], fun right => absurd right hshaped, fun right => absurd right hshaped⟩

end

namespace Layout

variable {layout : Layout}

def fieldCodes (layout : Layout) (bytes : List UInt8) : List ℤ :=
  layout.channels.mapIdx fun i channel => codeAt layout.channels i channel bytes

theorem splitCodes_eq_fieldCodes (layout : Layout) (bytes : List UInt8) :
    splitCodes layout.channels bytes = layout.fieldCodes bytes := by
  apply List.ext_getElem?
  intro i
  rw [getElem?_splitCodes, fieldCodes, List.getElem?_mapIdx]

/-- Encoding answers with the number of readings, or with the first reading that has no code. -/
theorem recordAnswer_encode (layout : Layout) (readings : List Reading) :
    RecordAnswer Format.encode layout.channels readings (readings.length = layout.channelCount)
      (.wrongCount layout.channelCount readings.length) (layout.encode readings) := by
  have answer : layout.encode readings =
      if readings.length = layout.channelCount then
        (stepFields Format.encode 0 layout.channels readings).map (joinCodes layout.channels)
      else .error (.wrongCount layout.channelCount readings.length) := by
    rw [Layout.encode, Layout.codes]
    split_ifs <;> rfl
  rw [answer]
  exact recordAnswer_stepFields id (by simp)

/-- Decoding answers with the length of the record, or with the first code that is not read. -/
theorem recordAnswer_decode (layout : Layout) (bytes : List UInt8) :
    RecordAnswer Format.decode layout.channels (layout.fieldCodes bytes)
      (bytes.length = layout.byteCount) (.wrongLength layout.byteCount bytes.length)
      (layout.decode bytes) := by
  have answer : layout.decode bytes =
      if bytes.length = layout.byteCount then
        (stepFields Format.decode 0 layout.channels (layout.fieldCodes bytes)).map id
      else .error (.wrongLength layout.byteCount bytes.length) := by
    rw [Layout.decode, ← splitCodes_eq_fieldCodes]
    cases h : decodeCodes 0 layout.channels (splitCodes layout.channels bytes) <;>
      simp_all [decodeCodes, Except.map]
  rw [answer]
  exact recordAnswer_stepFields (fun _ => by simp [fieldCodes]) (by simp)

end Layout

end DeviceProperty
