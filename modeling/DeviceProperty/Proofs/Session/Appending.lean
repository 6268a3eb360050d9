/-
**A session of appended records.**

A caller that appends record after record sees some calls fail and others succeed.  This module
follows a whole session of such calls.  One call either leaves its record at the end of the buffer
or leaves the session as it was, so after any number of calls the buffer holds what it held at first
and then the records of the calls that succeeded; and since nothing is ever written over, a record
can be read from its place for the rest of the session.

Main definitions:

* `DeviceProperty.Session.after` — the session after a list of steps;
* `DeviceProperty.Session.Unbroken` — no step of a list breaks off;
* `DeviceProperty.Entry` — a call that appends a record, with the bytes it leaves;
* `DeviceProperty.Attempt` — what one call answers and leaves.

Main results:

* `DeviceProperty.Session.getElem?_run` — every answer of a session is that of one step;
* `DeviceProperty.Session.attempt_perform` — one call;
* `DeviceProperty.Session.after_entries` — the buffer after a list of calls;
* `DeviceProperty.Session.run_appends_records` — **a session appends the records of the calls that
  succeed, each whole, and nothing else**.
-/

import Mathlib
import DeviceProperty.Proofs.Journal

set_option relaxedAutoImplicit false
set_option autoImplicit false

namespace DeviceProperty

/-! ### Records that can be read -/

theorem Layout.exists_decode_of_encode {layout : Layout} {readings : List Reading}
    {record : List UInt8} (consistent : ∀ channel ∈ layout.channels, channel.format.Consistent)
    (encoded : layout.encode readings = .ok record) :
    ∃ results, layout.decode record = .ok results := by
  obtain ⟨codes, written, rfl⟩ := encode_eq_ok_iff.1 encoded
  obtain ⟨results, decoded, -⟩ := decode_of_encode consistent written
  exact ⟨results, decoded⟩

namespace Session

variable {session : Session} {steps : List Step}

/-! ### A session step by step -/

/-- The session after a list of steps. -/
def after (session : Session) : List Step → Session
  | [] => session
  | step :: steps => (session.perform step).2.after steps

@[simp] theorem after_nil (session : Session) : session.after [] = session := rfl

@[simp] theorem after_cons (session : Session) (step : Step) (steps : List Step) :
    session.after (step :: steps) = (session.perform step).2.after steps := rfl

/-- No step of a list breaks off. -/
def Unbroken (session : Session) : List Step → Prop
  | [] => True
  | step :: steps =>
      (session.perform step).1.outcome ≠ .halted ∧ (session.perform step).2.Unbroken steps

theorem run_cons {step : Step} (steps : List Step)
    (answered : (session.perform step).1.outcome ≠ .halted) :
    session.run (step :: steps) = session.perform step :: (session.perform step).2.run steps := by
  rw [run]
  cases h : (session.perform step).1.outcome with
  | ok result => rfl
  | error fault => rfl
  | halted => exact absurd h answered

theorem length_run (unbroken : session.Unbroken steps) :
    (session.run steps).length = steps.length := by
  induction steps generalizing session with
  | nil => rfl
  | cons step steps ih =>
      obtain ⟨answered, unbroken⟩ := unbroken
      rw [run_cons steps answered, List.length_cons, ih unbroken, List.length_cons]

/-- Every answer of a session is that of its step in the session after the steps before it. -/
theorem getElem?_run (unbroken : session.Unbroken steps) (i : ℕ) :
    (session.run steps)[i]? =
      steps[i]?.map fun step => (session.after (steps.take i)).perform step := by
  induction steps generalizing session i with
  | nil => simp [run]
  | cons step steps ih =>
      obtain ⟨answered, unbroken⟩ := unbroken
      rw [run_cons steps answered]
      cases i with
      | zero => simp
      | succ i => simp [ih unbroken]

theorem take_run (session : Session) (steps : List Step) (n : ℕ) :
    (session.run steps).take n = session.run (steps.take n) := by
  induction steps generalizing session n with
  | nil => simp [run]
  | cons step steps ih =>
      cases n with
      | zero => simp [run]
      | succ n =>
          rw [List.take_succ_cons, run, run]
          cases (session.perform step).1.outcome <;> simp [ih]

theorem after_take_succ {step : Step} {i : ℕ} (hi : steps[i]? = some step) :
    session.after (steps.take (i + 1)) = ((session.after (steps.take i)).perform step).2 := by
  induction steps generalizing session i with
  | nil => simp at hi
  | cons first steps ih =>
      cases i with
      | zero =>
          obtain rfl := Option.some.inj hi
          rfl
      | succ i => exact ih hi

end Session

/-! ### One call -/

/-- A call that appends a record: a layout, and readings for its channels. -/
structure Entry where
  layout : Layout
  readings : List Reading
deriving DecidableEq, Repr

namespace Entry

def step (entry : Entry) : Step := .encodeInto entry.layout entry.readings

/-- The record that the call is to append. -/
def record (entry : Entry) : Except Fault (List UInt8) := entry.layout.encode entry.readings

theorem record_of_codes {entry : Entry} {codes : List ℤ}
    (hcodes : entry.layout.codes entry.readings = .ok codes) :
    entry.record = .ok (joinCodes entry.layout.channels codes) := by
  rw [record, Layout.encode, hcodes, Except.map]

/-- The bytes that a call leaves, given its answer: its record, if it succeeded. -/
def written (entry : Entry) (answer : Journaled StepResult × Session) : List UInt8 :=
  match answer.1.outcome, entry.record with
  | .ok _, .ok record => record
  | _, _ => []

end Entry

/-- What a call answers and leaves, given the session before it. -/
structure Attempt (before : Session) (entry : Entry) (answer : Outcome StepResult)
    (after : Session) : Prop where
  /-- It does not break off. -/
  answered : answer ≠ .halted
  /-- It succeeds when there is a record and room for it. -/
  succeeds_iff : (∃ result, answer = .ok result) ↔
    (∃ record, entry.record = .ok record) ∧ before.buffer.HasRoom entry.layout.byteCount
  /-- Then the record stands at the end of the buffer, and nothing else has changed. -/
  appends : ∀ result, answer = .ok result →
    ∃ record, entry.record = .ok record ∧
      after = { before with buffer := before.buffer.append record }
  /-- Otherwise nothing has changed. -/
  keeps : ∀ fault, answer = .error fault → after = before
  /-- The fault of a record is the answer, whatever the room. -/
  faulty : ∀ fault, entry.record = .error fault → answer = .error fault
  /-- Want of room is answered with the bytes that the record takes and the room. -/
  crowded : ∀ record room, entry.record = .ok record → before.buffer.room? = some room →
    room < entry.layout.byteCount → answer = .error (.wrongLength entry.layout.byteCount room)
  /-- The call succeeds exactly when every field of the record finds room of its own, and the
  fields then leave the same buffer. -/
  fields : ∀ codes, entry.layout.codes entry.readings = .ok codes → ∀ buffer,
    before.buffer.putFields? entry.layout.channels codes = some buffer ↔
      (∃ result, answer = .ok result) ∧ after.buffer = buffer

namespace Session

variable {session : Session} {entries : List Entry}

theorem outcome_encodeInto {layout : Layout} (sound : layout.Sound) (readings : List Reading)
    (buffer : Buffer) : (Journaled.encodeInto layout readings buffer).outcome =
      .guarded false (layout.encodeInto readings buffer) := by
  rw [Journaled.encodeInto_eq_reporting, Journaled.outcome_reporting,
    sound.encodeIntoHalts_eq_false]

theorem perform_of_ok {entry : Entry} (sound : entry.layout.Sound) {buffer : Buffer}
    (appended : entry.layout.encodeInto entry.readings session.buffer = .ok buffer) :
    (session.perform entry.step).1.outcome = .ok .done ∧
      (session.perform entry.step).2 = { session with buffer } := by
  have outcome := outcome_encodeInto sound entry.readings session.buffer
  rw [appended, Outcome.guarded_false_ok] at outcome
  simp [Entry.step, perform, outcome, Journaled.outcome_map, Outcome.map]

theorem perform_of_error {entry : Entry} (sound : entry.layout.Sound) {fault : Fault}
    (refused : entry.layout.encodeInto entry.readings session.buffer = .error fault) :
    (session.perform entry.step).1.outcome = .error fault ∧
      (session.perform entry.step).2 = session := by
  have outcome := outcome_encodeInto sound entry.readings session.buffer
  rw [refused, Outcome.guarded_false_error] at outcome
  simp [Entry.step, perform, outcome, Journaled.outcome_map, Outcome.map]

/-- The three ends of a call, and the bytes that each of them leaves. -/
theorem perform_cases (session : Session) {entry : Entry} (sound : entry.layout.Sound) :
    (∃ fault, entry.record = .error fault ∧
        (session.perform entry.step).1.outcome = .error fault ∧
        (session.perform entry.step).2 = session) ∨
      (∃ record, entry.record = .ok record ∧ session.buffer.HasRoom entry.layout.byteCount ∧
        (session.perform entry.step).1.outcome = .ok .done ∧
        (session.perform entry.step).2 =
          { session with buffer := session.buffer.append record }) ∨
      ∃ record room, entry.record = .ok record ∧ session.buffer.room? = some room ∧
        room < entry.layout.byteCount ∧
        (session.perform entry.step).1.outcome =
          .error (.wrongLength entry.layout.byteCount room) ∧
        (session.perform entry.step).2 = session := by
  obtain ⟨fault, hrecord, refused⟩ | ⟨record, hrecord, room, appended⟩ |
      ⟨record, room, hrecord, hroom, short, refused⟩ :=
    Layout.encodeInto_cases entry.layout entry.readings session.buffer
  · exact .inl ⟨fault, hrecord, perform_of_error sound refused⟩
  · exact .inr (.inl ⟨record, hrecord, room, perform_of_ok sound appended⟩)
  · exact .inr (.inr ⟨record, room, hrecord, hroom, short, perform_of_error sound refused⟩)

/-- What one call answers and leaves. -/
theorem attempt_perform (session : Session) {entry : Entry} (sound : entry.layout.Sound) :
    Attempt session entry (session.perform entry.step).1.outcome
      (session.perform entry.step).2 := by
  have spread : ∀ codes, entry.layout.codes entry.readings = .ok codes → ∀ buffer,
      session.buffer.putFields? entry.layout.channels codes = some buffer ↔
        session.buffer.HasRoom entry.layout.byteCount ∧
          buffer = session.buffer.append (joinCodes entry.layout.channels codes) := by
    intro codes hcodes buffer
    exact Buffer.putFields?_eq_some_iff (Layout.length_codes hcodes)
  obtain ⟨fault, hrecord, houtcome, hafter⟩ | ⟨record, hrecord, room, houtcome, hafter⟩ |
      ⟨record, room, hrecord, hroom, short, houtcome, hafter⟩ := session.perform_cases sound
  · rw [houtcome, hafter]
    refine ⟨by simp, by simp [hrecord], by simp, by simp, by simp [hrecord], by simp [hrecord], ?_⟩
    intro codes hcodes
    cases (Entry.record_of_codes hcodes).symm.trans hrecord
  · rw [houtcome, hafter]
    refine ⟨by simp, by simp [hrecord, room], by simp [hrecord], by simp, by simp [hrecord], ?_,
      ?_⟩
    · intro _ free _ hfree short
      exact absurd (room free hfree) short.not_ge
    · intro codes hcodes buffer
      obtain rfl := Except.ok.inj ((Entry.record_of_codes hcodes).symm.trans hrecord)
      rw [spread codes hcodes]
      simp [room, eq_comm]
  · have narrow : ¬ session.buffer.HasRoom entry.layout.byteCount := by
      intro room
      exact (room _ hroom).not_gt short
    rw [houtcome, hafter]
    refine ⟨by simp, by simp [narrow], by simp, by simp, by simp [hrecord], ?_, ?_⟩
    · intro _ free _ hfree _
      obtain rfl := Option.some.inj (hroom.symm.trans hfree)
      rfl
    · intro codes hcodes buffer
      simp [spread codes hcodes, narrow]

/-- A call leaves the bytes of its record, or nothing. -/
theorem perform_entry (session : Session) {entry : Entry} (sound : entry.layout.Sound) :
    (session.perform entry.step).2 =
      { session with
        buffer := session.buffer.append (entry.written (session.perform entry.step)) } := by
  obtain ⟨fault, hrecord, houtcome, hafter⟩ | ⟨record, hrecord, room, houtcome, hafter⟩ |
      ⟨record, room, hrecord, hroom, short, houtcome, hafter⟩ := session.perform_cases sound
  · simp [hafter, Entry.written, houtcome]
  · simp [hafter, Entry.written, houtcome, hrecord]
  · simp [hafter, Entry.written, houtcome]

theorem length_contents_perform_le {entry : Entry} (sound : entry.layout.Sound)
    {capacity bound : ℕ} (hcapacity : session.buffer.capacity = some capacity)
    (within : session.buffer.contents.length ≤ max capacity bound) :
    (session.perform entry.step).2.buffer.contents.length ≤ max capacity bound := by
  obtain ⟨fault, hrecord, houtcome, hafter⟩ | ⟨record, hrecord, room, houtcome, hafter⟩ |
      ⟨record, room, hrecord, hroom, short, houtcome, hafter⟩ := session.perform_cases sound
  · rwa [hafter]
  · have size : record.length = entry.layout.byteCount := Layout.length_encode hrecord
    have enough : entry.layout.byteCount ≤ capacity - session.buffer.contents.length :=
      room _ (by simp [Buffer.room?, hcapacity])
    rw [hafter, Buffer.append, List.length_append]
    omega
  · rwa [hafter]

/-! ### A list of calls -/

/-- The session after the first calls of a list. -/
def afterCalls (session : Session) (entries : List Entry) (count : ℕ) : Session :=
  session.after ((entries.take count).map Entry.step)

theorem afterCalls_succ (session : Session) {entry : Entry} {i : ℕ}
    (hi : entries[i]? = some entry) :
    session.afterCalls entries (i + 1) = ((session.afterCalls entries i).perform entry.step).2 := by
  rw [afterCalls, afterCalls, List.map_take, List.map_take]
  exact after_take_succ (by simp [hi])

theorem afterCalls_succ_of_none (session : Session) {n : ℕ} (hn : entries[n]? = none) :
    session.afterCalls entries (n + 1) = session.afterCalls entries n := by
  have beyond : entries.length ≤ n := List.getElem?_eq_none_iff.1 hn
  rw [afterCalls, afterCalls, List.take_of_length_le beyond, List.take_of_length_le (by omega)]

section

variable (sound : ∀ entry ∈ entries, entry.layout.Sound)

include sound

theorem unbroken_entries (session : Session) : session.Unbroken (entries.map Entry.step) := by
  induction entries generalizing session with
  | nil => trivial
  | cons entry entries ih =>
      rw [List.forall_mem_cons] at sound
      exact ⟨(attempt_perform session sound.1).answered, ih sound.2 _⟩

/-- After a list of calls, the records of those that succeeded stand at the end of the buffer. -/
theorem after_entries (session : Session) :
    session.after (entries.map Entry.step) =
      { session with
        buffer := session.buffer.append
          (List.zipWith Entry.written entries
            (session.run (entries.map Entry.step))).flatten } := by
  induction entries generalizing session with
  | nil => simp [run]
  | cons entry entries ih =>
      rw [List.forall_mem_cons] at sound
      have answered := (attempt_perform session sound.1).answered
      rw [List.map_cons, after_cons, ih sound.2, run_cons _ answered, List.zipWith_cons_cons,
        List.flatten_cons, ← Buffer.append_append, perform_entry session sound.1]

theorem afterCalls_eq (session : Session) (n : ℕ) :
    session.afterCalls entries n =
      { session with
        buffer := session.buffer.append
          ((List.zipWith Entry.written entries
            (session.run (entries.map Entry.step))).take n).flatten } := by
  have first : ∀ entry ∈ entries.take n, entry.layout.Sound :=
    fun entry member => sound entry (List.mem_of_mem_take member)
  rw [afterCalls, after_entries first, List.take_zipWith, take_run, ← List.map_take]

theorem getElem?_run_entries (session : Session) {entry : Entry} {i : ℕ}
    (hi : entries[i]? = some entry) :
    (session.run (entries.map Entry.step))[i]? =
      some ((session.afterCalls entries i).perform entry.step) := by
  rw [getElem?_run (unbroken_entries sound session), afterCalls, List.map_take]
  simp [hi]

/-- What is in the buffer after some calls stays there. -/
theorem exists_contents_afterCalls (session : Session) {i n : ℕ} (hle : i ≤ n) :
    ∃ bytes, (session.afterCalls entries n).buffer.contents =
      (session.afterCalls entries i).buffer.contents ++ bytes := by
  induction n, hle using Nat.le_induction with
  | base => exact ⟨[], by simp⟩
  | succ n hle ih =>
      obtain ⟨bytes, hbytes⟩ := ih
      cases hn : entries[n]? with
      | none =>
          -- past the last call nothing is appended
          exact ⟨bytes, by rw [afterCalls_succ_of_none session hn, hbytes]⟩
      | some entry =>
          have sound := sound entry (List.mem_of_getElem? hn)
          refine ⟨bytes ++ entry.written ((session.afterCalls entries n).perform entry.step), ?_⟩
          rw [afterCalls_succ session hn, perform_entry _ sound, ← List.append_assoc, ← hbytes]
          rfl

theorem length_contents_afterCalls_le (session : Session) (n : ℕ) :
    ∀ capacity ∈ session.buffer.capacity, (session.afterCalls entries n).buffer.contents.length ≤
      max capacity session.buffer.contents.length := by
  intro capacity hcapacity
  induction n with
  | zero => exact le_max_right ..
  | succ n ih =>
      cases hn : entries[n]? with
      | none => rwa [afterCalls_succ_of_none session hn]
      | some entry =>
          have same : (session.afterCalls entries n).buffer.capacity = some capacity := by
            rwa [afterCalls_eq sound]
          rw [afterCalls_succ session hn]
          exact length_contents_perform_le (sound entry (List.mem_of_getElem? hn)) same ih

/-- The record of a call that succeeded is found in its place after every later call. -/
theorem segment_afterCalls {entry : Entry} {answer : Journaled StepResult} {after : Session}
    {result : StepResult} {i n : ℕ} (hi : entries[i]? = some entry)
    (hperform : (session.afterCalls entries i).perform entry.step = (answer, after))
    (succeeded : answer.outcome = .ok result) (hlt : i < n) :
    ∃ record, entry.record = .ok record ∧
      ((session.afterCalls entries n).buffer.contents.drop
        (session.afterCalls entries i).buffer.contents.length).take entry.layout.byteCount =
          record := by
  have attempt := attempt_perform (session.afterCalls entries i)
    (sound entry (List.mem_of_getElem? hi))
  rw [hperform] at attempt
  obtain ⟨record, hrecord, hafter⟩ := attempt.appends result succeeded
  obtain ⟨bytes, hbytes⟩ := exists_contents_afterCalls sound session hlt
  refine ⟨record, hrecord, ?_⟩
  rw [hbytes, afterCalls_succ session hi, hperform, hafter, Buffer.append, List.append_assoc,
    List.drop_left, List.take_left' (Layout.length_encode hrecord)]

end

/-- **A session appends the records of the calls that succeed, each whole, and nothing else.**
Every call is answered as an attempt in the session before it; after every call the buffer holds
what it held at first and then the records of the calls that succeeded, in order, within its limit;
and from then on the record of a call that succeeded is found in its place, and is read. -/
theorem run_appends_records (session : Session) (entries : List Entry)
    (consistent : ∀ entry ∈ entries, ∀ channel ∈ entry.layout.channels,
      channel.format.tableFaults = []) :
    (session.run (entries.map Entry.step)).length = entries.length ∧
      ∀ (i : ℕ) (entry : Entry), entries[i]? = some entry →
        ∃ answer after, (session.run (entries.map Entry.step))[i]? = some (answer, after) ∧
          after = session.afterCalls entries (i + 1) ∧
          Attempt (session.afterCalls entries i) entry answer.outcome after ∧
          after.buffer.contents = session.buffer.contents ++
            ((List.zipWith Entry.written entries
              (session.run (entries.map Entry.step))).take (i + 1)).flatten ∧
          after.buffer.capacity = session.buffer.capacity ∧
          (∀ capacity ∈ session.buffer.capacity,
            after.buffer.contents.length ≤ max capacity session.buffer.contents.length) ∧
          ∀ result, answer.outcome = .ok result → ∀ n, i < n →
            ∃ record results, entry.record = .ok record ∧
              entry.layout.decode record = .ok results ∧
              ((session.afterCalls entries n).buffer.contents.drop
                (session.afterCalls entries i).buffer.contents.length).take
                  entry.layout.byteCount = record := by
  have reads : ∀ entry ∈ entries, ∀ channel ∈ entry.layout.channels,
      channel.format.Consistent :=
    fun entry member channel inside =>
      Format.tableFaults_eq_nil_iff.1 (consistent entry member channel inside)
  have sound : ∀ entry ∈ entries, entry.layout.Sound :=
    fun entry member channel inside => (reads entry member channel inside).sound
  refine ⟨by rw [length_run (unbroken_entries sound session), List.length_map], ?_⟩
  intro i entry hi
  rcases hperform : (session.afterCalls entries i).perform entry.step with ⟨answer, after⟩
  have attempt := attempt_perform (session.afterCalls entries i)
    (sound entry (List.mem_of_getElem? hi))
  rw [hperform] at attempt
  obtain rfl : session.afterCalls entries (i + 1) = after := by
    rw [afterCalls_succ session hi, hperform]
  refine ⟨answer, _, by rw [getElem?_run_entries sound session hi, hperform], rfl, attempt,
    by rw [afterCalls_eq sound]; rfl, by rw [afterCalls_eq sound]; rfl,
    length_contents_afterCalls_le sound session (i + 1), ?_⟩
  intro result succeeded n hlt
  obtain ⟨record, hrecord, place⟩ := segment_afterCalls sound hi hperform succeeded hlt
  obtain ⟨results, decoded⟩ :=
    Layout.exists_decode_of_encode (reads entry (List.mem_of_getElem? hi)) hrecord
  exact ⟨record, results, hrecord, decoded, place⟩

/-- Three colours: one with a coordinate out of range, and two that can be written. -/
def threeColours : List Entry := [
  ⟨.chromaticityCoordinates, [.normal (.ofParts 0 500000), .normal (.ofWhole (-1))]⟩,
  ⟨.chromaticityCoordinates, [.normal (.ofParts 0 500000), .normal (.ofParts 0 250000)]⟩,
  ⟨.chromaticityCoordinates, [.normal .zero, .normal .zero]⟩]

/-- Three colours on a buffer that holds one byte and may hold six: the second one is appended, and
the third one is refused, with the one byte of room that is left. -/
theorem run_appends_records_threeColours :
    (∀ entry ∈ threeColours, ∀ channel ∈ entry.layout.channels, channel.format.tableFaults = []) ∧
      ∃ answer after,
        (Session.run ⟨⟨[0xAA], some 6⟩, 0⟩ (threeColours.map Entry.step))[2]? =
          some (answer, after) ∧
        answer.outcome = .error (.wrongLength 4 1) ∧
        after.buffer.contents = [0xAA, 0x00, 0x80, 0x00, 0x40] := by
  have consistent : ∀ entry ∈ threeColours, ∀ channel ∈ entry.layout.channels,
      channel.format.tableFaults = [] := by
    decide
  obtain ⟨-, calls⟩ := run_appends_records ⟨⟨[0xAA], some 6⟩, 0⟩ threeColours consistent
  obtain ⟨answer, after, answered, -, attempt, contents, -⟩ := calls 2 _ rfl
  refine ⟨consistent, answer, after, answered, ?_, ?_⟩
  · exact attempt.crowded [0, 0, 0, 0] 1 rfl rfl (by decide)
  · rw [contents]
    rfl

end Session

end DeviceProperty
