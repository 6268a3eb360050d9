/-
**What a run of calls reports.**

Whoever reads the reports of a run of calls reads off it which calls succeeded: there is one report
for every call that answers with a value, in the order of the calls, with the layout of the call and
the size of its whole record, and there is no other report.  A call that fails adds nothing, be it
for an unknown identifier, for the number of its readings, the length of its record or the room of
its buffer, or for any of its fields; and a call that breaks off adds nothing either.

Which calls break off depends on the numbers of their formats.  Codes have a nearest ordinary one
where the bounds are the right way round, and a width can be compared with codes, written and read
where its own limits are 64-bit numbers.  A layout of such formats never breaks off, and every
registered layout is one.

Main definitions:

* `DeviceProperty.Format.Sound`, `DeviceProperty.Layout.Sound` — formats and layouts on which
  nothing breaks off;
* `DeviceProperty.Journaled.reporting` — an outcome that is reported if it is a value;
* `DeviceProperty.Call.layout`, `DeviceProperty.Call.answer`, `DeviceProperty.Call.direction`,
  `DeviceProperty.Call.wording` — the layout of a call, what comes of it, which way its record goes,
  and how it is reported;
* `DeviceProperty.Call.ReportedAs` — an event is the report of a call;
* `DeviceProperty.Session.calls` — the calls that the steps of a session make.

Main results:

* `DeviceProperty.Journaled.encode_eq_reporting`,
  `DeviceProperty.Journaled.encodeInto_eq_reporting`,
  `DeviceProperty.Journaled.decode_eq_reporting` — **the operations on records report their
  outcomes, and nothing on the way to them**;
* `DeviceProperty.Call.answer_ne_halted` — a call on a sound layout does not break off;
* `DeviceProperty.Call.forall₂_reports` — what a list of calls reports;
* `DeviceProperty.Session.events_run` — a session reports what its calls report;
* `DeviceProperty.Call.reports_the_successes` — **the reports of a run are those of the calls that
  succeed, in their order**.
-/

import Mathlib
import DeviceProperty.Proofs.Property
import DeviceProperty.Session

set_option relaxedAutoImplicit false
set_option autoImplicit false

namespace DeviceProperty

/-! ### Layouts on which nothing breaks off -/

/-- Fields of a width whose limits are 64-bit numbers take eight bytes at most. -/
theorem Width.writeHalts_eq_false {width : Width} (limits : width.limitsHalt = false) :
    Field.writeHalts width.bits = false := by
  simp only [limitsHalt, Field.writeHalts, Field.byteCount] at *
  split_ifs at limits <;> grind

theorem Width.readHalts_eq_false {width : Width} (limits : width.limitsHalt = false) :
    Field.readHalts width.bits width.signed = false := by
  have short := writeHalts_eq_false limits
  simp only [limitsHalt, Field.writeHalts, Field.readHalts, Field.signHalts] at *
  split_ifs at limits <;> grind

namespace Format

variable {format : Format}

/-- The bounds are the right way round, and the limits of the width are 64-bit numbers. -/
structure Sound (format : Format) : Prop where
  ordered : format.minCode ≤ format.maxCode
  limits : format.width.limitsHalt = false

theorem Consistent.sound (consistent : format.Consistent) : format.Sound where
  ordered := consistent.minCode_le_maxCode
  limits := by
    have := consistent.bits_pos
    have := consistent.bits_le
    simp only [Width.limitsHalt, maxFieldBits] at *
    split_ifs <;> grind

theorem Sound.encodeHalts_eq_false (sound : format.Sound) (reading : Reading) :
    format.encodeHalts reading = false := by
  have ordered : decide (format.maxCode < format.minCode) = false :=
    decide_eq_false sound.ordered.not_gt
  rw [encodeHalts, ordered]
  cases format.classifyReading reading <;> simp

theorem Sound.decodeHalts_eq_false (sound : format.Sound) (code : ℤ) :
    format.decodeHalts code = false := by
  simp [decodeHalts, Width.fitsHalts, sound.limits, Width.readHalts_eq_false sound.limits]

end Format

theorem stepsHalt_eq_false {α β : Type} {halts : Format → α → Bool}
    {step : Format → α → Except Fault β} {channels : List Channel} {as : List α}
    (never : ∀ channel ∈ channels, ∀ a, halts channel.format a = false) :
    stepsHalt halts step channels as = false := by
  induction channels generalizing as with
  | nil => cases as <;> rfl
  | cons channel channels ih =>
      rw [List.forall_mem_cons] at never
      cases as with
      | nil => rfl
      | cons a as => simp [stepsHalt, never.1 a, ih never.2]

namespace Layout

variable {layout : Layout}

def Sound (layout : Layout) : Prop := ∀ channel ∈ layout.channels, channel.format.Sound

/-- Whether encoding breaks off: in finding a code, or in writing one when all have been found. -/
def encodeHalts (layout : Layout) (readings : List Reading) : Bool :=
  layout.codesHalt readings || (layout.encode readings).isOk && layout.joinHalts

/-- Whether appending breaks off: in finding a code, or in writing one when there is room. -/
def encodeIntoHalts (layout : Layout) (readings : List Reading) (buffer : Buffer) : Bool :=
  layout.codesHalt readings || (layout.encodeInto readings buffer).isOk && layout.joinHalts

theorem Sound.codesHalt_eq_false (sound : layout.Sound) (readings : List Reading) :
    layout.codesHalt readings = false := by
  rw [codesHalt, stepsHalt_eq_false, Bool.and_false]
  intro channel member
  exact (sound channel member).encodeHalts_eq_false

theorem Sound.joinHalts_eq_false (sound : layout.Sound) : layout.joinHalts = false := by
  rw [joinHalts, List.any_eq_false]
  intro channel member
  simp [Width.writeHalts_eq_false (sound channel member).limits]

theorem Sound.encodeHalts_eq_false (sound : layout.Sound) (readings : List Reading) :
    layout.encodeHalts readings = false := by
  simp [encodeHalts, sound.codesHalt_eq_false, sound.joinHalts_eq_false]

theorem Sound.encodeIntoHalts_eq_false (sound : layout.Sound) (readings : List Reading)
    (buffer : Buffer) : layout.encodeIntoHalts readings buffer = false := by
  simp [encodeIntoHalts, sound.codesHalt_eq_false, sound.joinHalts_eq_false]

theorem Sound.decodeHalts_eq_false (sound : layout.Sound) (bytes : List UInt8) :
    layout.decodeHalts bytes = false := by
  rw [decodeHalts, stepsHalt_eq_false, Bool.and_false]
  intro channel member
  exact (sound channel member).decodeHalts_eq_false

end Layout

theorem Property.sound_of_layout? {id : UInt16} {layout : Layout}
    (registered : layout? id = some layout) : layout.Sound := by
  intro channel member
  exact (lossless_of_layout? registered channel member).consistent.sound

/-! ### Outcomes with their reports -/

namespace Journaled

variable {α β : Type}

@[simp] theorem outcome_pure (value : α) : (pure value : Journaled α).outcome = .ok value := rfl

theorem outcome_map (f : α → β) (journaled : Journaled α) :
    (f <$> journaled).outcome = journaled.outcome.map f := by
  cases h : journaled.outcome <;>
    simp [Functor.map, Journaled.bind, h, Outcome.map, Journaled.silent]

theorem events_map (f : α → β) (journaled : Journaled α) :
    (f <$> journaled).events = journaled.events := by
  cases h : journaled.outcome <;> simp [Functor.map, Journaled.bind, h, Journaled.silent]

@[simp] theorem silent_ok_bind (value : α) (next : α → Journaled β) :
    (silent (.ok value) >>= next) = next value := by
  simp [bind, Journaled.bind, silent]

@[simp] theorem silent_error_bind (fault : Fault) (next : α → Journaled β) :
    (silent (.error fault) >>= next) = silent (.error fault) := by
  simp [bind, Journaled.bind, silent]

@[simp] theorem silent_halted_bind (next : α → Journaled β) :
    (silent .halted >>= next) = silent .halted := by
  simp [bind, Journaled.bind, silent]

/-- An outcome that is reported, if it is a value. -/
def reporting (event : Event) : Outcome α → Journaled α
  | .ok value => ⟨.ok value, [event]⟩
  | .error fault => silent (.error fault)
  | .halted => silent .halted

@[simp] theorem reporting_error (event : Event) (fault : Fault) :
    reporting event (.error fault : Outcome α) = silent (.error fault) := rfl

@[simp] theorem reporting_halted (event : Event) :
    reporting event (.halted : Outcome α) = silent .halted := rfl

@[simp] theorem outcome_reporting (event : Event) (outcome : Outcome α) :
    (reporting event outcome).outcome = outcome := by
  cases outcome <;> rfl

theorem note_bind (event : Event) (value : α) :
    (do note event; return value) = reporting event (.ok value) := rfl

@[simp] theorem map_reporting (f : α → β) (event : Event) (outcome : Outcome α) :
    f <$> reporting event outcome = reporting event (outcome.map f) := by
  cases outcome <;> rfl

theorem reporting_bind (event : Event) (outcome : Outcome α) (f : α → β) :
    (do return f (← reporting event outcome)) = reporting event (outcome.map f) :=
  map_reporting f event outcome

/-! ### Records -/

/-- Writing the codes of a whole record reports its outcome. -/
theorem join_eq_reporting {layout : Layout} {codes : List ℤ}
    (count : codes.length = layout.channelCount) :
    join layout codes = reporting (layout.event .encoded layout.channelCount)
      (.guarded layout.joinHalts (.ok (joinCodes layout.channels codes))) := by
  cases halts : layout.joinHalts <;> simp [join, halts, note_bind, count]

/-- Encoding reports its outcome.  The codes that are counted are those of the whole record. -/
theorem encode_eq_reporting (layout : Layout) (readings : List Reading) :
    encode layout readings = reporting (layout.event .encoded layout.channelCount)
      (.guarded (layout.encodeHalts readings) (layout.encode readings)) := by
  rw [encode, codes, Layout.encodeHalts, Layout.encode]
  cases layout.codesHalt readings with
  | true => simp
  | false =>
      cases h : layout.codes readings with
      | error fault => simp [Except.map, Except.isOk, Except.toBool]
      | ok codes =>
          simp [Except.map, Except.isOk, Except.toBool, join_eq_reporting (Layout.length_codes h)]

/-- Appending reports its outcome: the room is looked at before anything is reported. -/
theorem encodeInto_eq_reporting (layout : Layout) (readings : List Reading) (buffer : Buffer) :
    encodeInto layout readings buffer = reporting (layout.event .encoded layout.channelCount)
      (.guarded (layout.encodeIntoHalts readings buffer) (layout.encodeInto readings buffer)) := by
  rw [encodeInto, codes, Layout.encodeIntoHalts]
  cases layout.codesHalt readings with
  | true => simp
  | false =>
      cases h : layout.codes readings with
      | error fault =>
          have refused : layout.encodeInto readings buffer = .error fault := by
            simp [Layout.encodeInto, h, bind, Except.bind]
          simp [refused, Except.isOk, Except.toBool]
      | ok codes =>
          cases hroom : buffer.reserve layout.byteCount with
          | error fault =>
              have refused : layout.encodeInto readings buffer = .error fault := by
                simp [Layout.encodeInto, h, hroom, bind, Except.bind]
              simp [refused, Except.isOk, Except.toBool]
          | ok _ =>
              have appended : layout.encodeInto readings buffer =
                  .ok (buffer.append (joinCodes layout.channels codes)) := by
                simp [Layout.encodeInto, h, hroom, bind, Except.bind, pure, Except.pure]
              simp [appended, Except.isOk, Except.toBool,
                join_eq_reporting (Layout.length_codes h), reporting_bind, Outcome.map_guarded,
                Except.map]

theorem decode_eq_reporting (layout : Layout) (bytes : List UInt8) :
    decode layout bytes = reporting (layout.event .decoded layout.channelCount)
      (.guarded (layout.decodeHalts bytes) (layout.decode bytes)) := by
  rw [decode]
  cases layout.decodeHalts bytes with
  | true => simp
  | false =>
      cases h : layout.decode bytes with
      | error fault => simp
      | ok readings => simp [note_bind, Layout.length_decode h]

end Journaled

namespace Call

/-! ### One call -/

def layout : Call → Except Fault Layout
  | encode layout _ => .ok layout
  | encodeInto layout _ _ => .ok layout
  | decode layout _ => .ok layout
  | encodeProperty id _ => Property.layoutOf id
  | decodeProperty id _ => Property.layoutOf id

def direction : Call → Direction
  | encode _ _ => .encoded
  | encodeInto _ _ _ => .encoded
  | decode _ _ => .decoded
  | encodeProperty _ _ => .encoded
  | decodeProperty _ _ => .decoded

/-- What comes of a call, whether it is reported or not.  On a registered layout none breaks
off. -/
def answer : Call → Outcome CallResult
  | encode layout readings =>
      .guarded (layout.encodeHalts readings) ((layout.encode readings).map .bytes)
  | encodeInto layout readings buffer =>
      .guarded (layout.encodeIntoHalts readings buffer)
        ((layout.encodeInto readings buffer).map .buffer)
  | decode layout bytes =>
      .guarded (layout.decodeHalts bytes) ((layout.decode bytes).map .readings)
  | encodeProperty id readings => .guarded false ((Property.encode id readings).map .bytes)
  | decodeProperty id bytes => .guarded false ((Property.decode id bytes).map .readings)

/-- A call looks for its layout, and reports its answer. -/
theorem perform_eq (call : Call) :
    call.perform = (do
      let layout ← Journaled.silent (.guarded false call.layout)
      Journaled.reporting (layout.event call.direction layout.channelCount) call.answer) := by
  cases call with
  | encode layout readings =>
      simp [perform, Call.layout, answer, direction, Journaled.encode_eq_reporting,
        Outcome.map_guarded]
  | encodeInto layout readings buffer =>
      simp [perform, Call.layout, answer, direction, Journaled.encodeInto_eq_reporting,
        Outcome.map_guarded]
  | decode layout bytes =>
      simp [perform, Call.layout, answer, direction, Journaled.decode_eq_reporting,
        Outcome.map_guarded]
  | encodeProperty id readings =>
      cases h : Property.layoutOf id with
      | error fault => simp [perform, Call.layout, Journaled.layoutOf, h]
      | ok layout =>
          -- the layout is sound, so the call does not break off
          have registered := Property.layoutOf_eq_ok_iff.1 h
          have sound := Property.sound_of_layout? registered
          simp [perform, Call.layout, answer, direction, Journaled.layoutOf, h,
            Property.encode_eq_of_layout? registered, Journaled.encode_eq_reporting,
            sound.encodeHalts_eq_false, Outcome.map_guarded]
  | decodeProperty id bytes =>
      cases h : Property.layoutOf id with
      | error fault => simp [perform, Call.layout, Journaled.layoutOf, h]
      | ok layout =>
          have registered := Property.layoutOf_eq_ok_iff.1 h
          have sound := Property.sound_of_layout? registered
          simp [perform, Call.layout, answer, direction, Journaled.layoutOf, h,
            Property.decode_eq_of_layout? registered, Journaled.decode_eq_reporting,
            sound.decodeHalts_eq_false, Outcome.map_guarded]

/-- A call without a layout answers with the fault of its identifier. -/
theorem answer_of_layout_eq_error {call : Call} {fault : Fault} (h : call.layout = .error fault) :
    call.answer = .error fault := by
  cases call with
  | encode layout readings => cases h
  | encodeInto layout readings buffer => cases h
  | decode layout bytes => cases h
  | encodeProperty id readings =>
      simp only [Call.layout] at h
      simp [answer, Property.encode, h, bind, Except.bind, Except.map]
  | decodeProperty id bytes =>
      simp only [Call.layout] at h
      simp [answer, Property.decode, h, bind, Except.bind, Except.map]

theorem outcome_perform (call : Call) : call.perform.outcome = call.answer := by
  rw [perform_eq]
  cases h : call.layout with
  | error fault =>
      rw [Outcome.guarded_false_error, Journaled.silent_error_bind, answer_of_layout_eq_error h,
        Journaled.silent]
  | ok layout =>
      rw [Outcome.guarded_false_ok, Journaled.silent_ok_bind, Journaled.outcome_reporting]

theorem answer_ne_halted {call : Call} {layout : Layout} (found : call.layout = .ok layout)
    (sound : layout.Sound) : call.answer ≠ .halted := by
  cases call with
  | encode _ readings =>
      obtain rfl := Except.ok.inj found
      simp [answer, sound.encodeHalts_eq_false]
  | encodeInto _ readings buffer =>
      obtain rfl := Except.ok.inj found
      simp [answer, sound.encodeIntoHalts_eq_false]
  | decode _ bytes =>
      obtain rfl := Except.ok.inj found
      simp [answer, sound.decodeHalts_eq_false]
  | encodeProperty id readings => simp [answer]
  | decodeProperty id bytes => simp [answer]

/-! ### What a call reports -/

/-- The wording under which a call is reported. -/
def wording : Call → String
  | encode _ _ => "Encoded property value"
  | encodeInto _ _ _ => "Encoded property value"
  | decode _ _ => "Decoded property value"
  | encodeProperty _ _ => "Encoded property value"
  | decodeProperty _ _ => "Decoded property value"

/-- An event is the report of a call: it names the layout of the call, counts the channels and the
bytes of a whole record, and is worded for the way that the record goes. -/
structure ReportedAs (call : Call) (event : Event) : Prop where
  layout : ∃ layout, call.layout = .ok layout ∧ event.layout = layout.name ∧
    event.channels = layout.channelCount ∧ event.bytes = layout.byteCount
  message : event.message = call.wording

theorem reportedAs_event {call : Call} {layout : Layout} (h : call.layout = .ok layout) :
    call.ReportedAs (layout.event call.direction layout.channelCount) where
  layout := ⟨layout, h, rfl, rfl, rfl⟩
  message := by cases call <;> rfl

theorem events_of_not_isOk {call : Call} (h : call.answer.isOk = false) :
    call.perform.events = [] := by
  rw [perform_eq]
  cases call.layout with
  | error fault => rw [Outcome.guarded_false_error, Journaled.silent_error_bind, Journaled.silent]
  | ok layout =>
      rw [Outcome.guarded_false_ok, Journaled.silent_ok_bind]
      cases hanswer : call.answer with
      | ok result => simp [hanswer, Outcome.isOk] at h
      | error fault => rw [Journaled.reporting_error, Journaled.silent]
      | halted => rw [Journaled.reporting_halted, Journaled.silent]

theorem events_of_ok {call : Call} {result : CallResult} (answered : call.answer = .ok result) :
    ∃ event, call.ReportedAs event ∧ call.perform.events = [event] := by
  cases h : call.layout with
  | error fault => cases answered.symm.trans (answer_of_layout_eq_error h)
  | ok layout =>
      refine ⟨layout.event call.direction layout.channelCount, reportedAs_event h, ?_⟩
      rw [perform_eq, h, answered, Outcome.guarded_false_ok, Journaled.silent_ok_bind,
        Journaled.reporting]

/-! ### Runs of calls -/

/-- A list of calls reports those that succeed, in their order. -/
theorem forall₂_reports (calls : List Call) :
    List.Forall₂ ReportedAs (calls.filter (·.answer.isOk)) (reports calls) := by
  induction calls with
  | nil => exact .nil
  | cons call calls ih =>
      cases h : call.answer with
      | ok result =>
          obtain ⟨event, reported, events⟩ := events_of_ok h
          simpa [reports, h, events, Outcome.isOk] using ⟨reported, ih⟩
      | error fault =>
          have silence : call.perform.events = [] := events_of_not_isOk (by rw [h]; rfl)
          simpa [reports, h, silence, Outcome.isOk] using ih
      | halted =>
          have silence : call.perform.events = [] := events_of_not_isOk (by rw [h]; rfl)
          simpa [reports, h, silence, Outcome.isOk] using ih

end Call

/-! ### Sessions -/

namespace Session

/-- The call that a step of a session makes. -/
def call? (session : Session) : Step → Option Call
  | .encodeInto layout readings => some (.encodeInto layout readings session.buffer)
  | .decode layout start count =>
      some (.decode layout ((session.buffer.contents.drop start).take count))
  | .putField _ _ => none
  | .getField _ _ => none
  | .insertBits _ _ _ => none
  | .extractBits _ _ => none
  | .truncate _ => none
  | .seek _ => none

/-- The calls that the steps of a session make, each with the session that it finds, up to a step
that breaks off. -/
def calls (session : Session) : List Step → List Call
  | [] => []
  | step :: steps =>
      let after := session.perform step
      (session.call? step).toList ++
        match after.1.outcome with
        | .ok _ | .error _ => after.2.calls steps
        | .halted => []

theorem events_answered (session : Session) (answer : Option (StepResult × Session)) :
    (session.answered answer).1.events = [] := by
  cases answer <;> rfl

theorem events_perform (session : Session) (step : Step) :
    (session.perform step).1.events = Call.reports (session.call? step).toList := by
  cases step with
  | encodeInto layout readings =>
      cases h : (Journaled.encodeInto layout readings session.buffer).outcome <;>
        simp [perform, call?, Call.reports, Call.perform, h, Journaled.events_map]
  | decode layout start count =>
      simp [perform, call?, Call.reports, Call.perform, Journaled.events_map]
  | truncate length => rfl
  | seek position => rfl
  | _ => exact events_answered ..

/-- A session reports what its calls report. -/
theorem events_run (session : Session) (steps : List Step) :
    (session.run steps).flatMap (·.1.events) = Call.reports (session.calls steps) := by
  induction steps generalizing session with
  | nil => rfl
  | cons step steps ih =>
      rw [run, calls]
      -- a step that breaks off is the last one of both lists
      cases (session.perform step).1.outcome <;>
        simp [events_perform, ih, Call.reports, List.flatMap_append]

end Session

/-- **The reports of a run are those of the calls that succeed, in their order.**  Each one names
the layout of its call, with the number of the channels and of the bytes of a whole record, and
there is no other report, whichever calls fail or break off in between; this holds of any list of
calls and of the calls of a session, which share its buffer.  Reporting does not change what comes
of a call; a call that fails reports nothing, and neither does one that breaks off, which no call on
a sound layout does. -/
theorem Call.reports_the_successes (calls : List Call) (session : Session) (steps : List Step) :
    List.Forall₂ ReportedAs (calls.filter (·.answer.isOk)) (reports calls) ∧
      List.Forall₂ ReportedAs ((session.calls steps).filter (·.answer.isOk))
        ((session.run steps).flatMap (·.1.events)) ∧
      ∀ call : Call, call.perform.outcome = call.answer ∧
        (∀ fault, call.answer = .error fault → call.perform.events = []) ∧
        (call.answer = .halted → call.perform.events = []) ∧
        ∀ layout, call.layout = .ok layout → layout.Sound → call.answer ≠ .halted := by
  refine ⟨forall₂_reports calls, ?_, fun call => ⟨outcome_perform call, ?_, ?_, ?_⟩⟩
  · rw [Session.events_run]
    exact forall₂_reports (session.calls steps)
  · intro fault failed
    exact events_of_not_isOk (by rw [failed]; rfl)
  · intro halted
    exact events_of_not_isOk (by rw [halted]; rfl)
  · exact fun _ => answer_ne_halted

/-- Tenths of a millionth, with the bounds the wrong way round.  Both bounds are read as zero, and
there is no code that is nearest to zero. -/
def Layout.wrongWayRound : Layout :=
  .single { Format.plain "wrong_way_round" (.unsigned 8) with
    multiplier := ⟨1, 10000000⟩
    minCode := 1
    maxCode := 0 }

/-- A share and two illuminances take seven bytes.  A negative illuminance in the middle is refused
without a report, zero in a field with its bounds the wrong way round breaks off without one, and of
two records for a buffer of ten bytes only the first one is reported. -/
theorem Call.reports_the_successes_illuminance_range :
    (Call.encodeProperty 0x0062
        [.normal (.ofWhole 50), .normal (.ofWhole (-1)), .normal (.ofWhole 2)]).answer =
      .error (.inChannel 1 "min" (.outOfRange (.ofWhole (-1)) .zero (.ofParts 167772 140000))) ∧
    (Call.encodeProperty 0x0062 [.normal (.ofWhole 50), .normal (.ofWhole (-1)),
        .normal (.ofWhole 2)]).perform.events = [] ∧
    (Call.encode .wrongWayRound [.normal .zero]).answer = .halted ∧
    (Call.encode .wrongWayRound [.normal .zero]).perform.events = [] ∧
    (Session.run ⟨⟨[], some 10⟩, 0⟩ (List.replicate 2 (.encodeInto .percentage8IlluminanceRange
        [.normal (.ofWhole 50), .normal (.ofWhole 1), .normal (.ofWhole 2)]))).flatMap
          (·.1.events) =
      [⟨.encoded, "percentage_8_illuminance_range", 3, 7⟩] := by
  have refused : (Call.encodeProperty 0x0062
      [.normal (.ofWhole 50), .normal (.ofWhole (-1)), .normal (.ofWhole 2)]).answer =
    .error (.inChannel 1 "min" (.outOfRange (.ofWhole (-1)) .zero (.ofParts 167772 140000))) := rfl
  have halted : (Call.encode .wrongWayRound [.normal .zero]).answer = .halted := rfl
  obtain ⟨-, -, calls⟩ := reports_the_successes [] ⟨⟨[], none⟩, 0⟩ []
  exact ⟨refused, (calls _).2.1 _ refused, halted, (calls _).2.2.1 halted, rfl⟩

end DeviceProperty
