/-
**Texts that are read, and texts that are written.**

A quantity is read from a well-formed numeral with white space around it, and a reading from such a
text or from the word of a special state in any mixture of capital and small letters.  Every other
text is refused as unreadable.  What has been read is written in canonical form, and what is written
is read as the same quantity or reading again, and in a document likewise.

There is one exception.  Writing takes the digits of a quantity from its millionths without their
sign, and so it writes every quantity.  Reading builds the number of millionths first and applies
the sign last, and the digits of the smallest quantity stand for one more than the largest number.
Its text is refused, and with it every document in which it occurs.

Main definitions:

* `DeviceProperty.Quantity.CanonicalText` — the canonical text of a quantity;
* `DeviceProperty.Spells` — a word in any mixture of capital and small letters;
* `DeviceProperty.Quantity.smallest` — the quantity that is written and not read.

Main results:

* `DeviceProperty.Quantity.ofText_eq_ok_iff`, `DeviceProperty.Reading.ofText_eq_ok_iff` — which
  texts are read, and as what;
* `DeviceProperty.Reading.ofText_grammar` — **the texts that are read, the fault of all others, and
  the canonical text of what was read**;
* `DeviceProperty.Reading.written_iff_ne_smallest` — **what is written is read again**, but for the
  smallest quantity.
-/

import Mathlib
import DeviceProperty.Proofs.Quantity
import DeviceProperty.Reading.Document

set_option relaxedAutoImplicit false
set_option autoImplicit false

namespace DeviceProperty

/-! ### Faults under another name -/

section MapError

variable {α ε δ : Type} {f : ε → δ} {result : Except ε α}

theorem mapError_eq_ok_iff {a : α} : result.mapError f = .ok a ↔ result = .ok a := by
  cases result <;> simp [Except.mapError]

theorem exists_of_mapError_eq_error {fault : δ} (h : result.mapError f = .error fault) :
    ∃ cause, fault = f cause := by
  cases result with
  | ok a => simp [Except.mapError] at h
  | error cause => exact ⟨cause, (Except.error.inj h).symm⟩

end MapError

/-! ### White space around a numeral -/

theorem isDigit_iff_bounds {c : Char} : c.isDigit = true ↔ 48 ≤ c.toNat ∧ c.toNat ≤ 57 :=
  Char.isDigit_iff_toNat

theorem isAlpha_iff_bounds {c : Char} : c.isAlpha = true ↔
    65 ≤ c.toNat ∧ c.toNat ≤ 90 ∨ 97 ≤ c.toNat ∧ c.toNat ≤ 122 := by
  simp [Char.isAlpha, Char.isUpper, Char.isLower, UInt32.le_iff_toNat_le]

theorem isBlank_eq_false_of_isDigit {c : Char} (h : c.isDigit = true) : isBlank c = false := by
  rw [isDigit_iff_bounds] at h
  exact isBlank_eq_false_of_printing (by omega)

theorem isBlank_eq_false_of_isAlpha {c : Char} (h : c.isAlpha = true) : isBlank c = false := by
  rw [isAlpha_iff_bounds] at h
  exact isBlank_eq_false_of_printing (by omega)

namespace Numeral

variable {numeral : Numeral}

theorem WellFormed.isBlank_eq_false (wellFormed : numeral.WellFormed) :
    ∀ c ∈ numeral.spelling, isBlank c = false := by
  intro c member
  rcases List.mem_append.1 member with sign | body
  · cases hsign : numeral.sign <;> simp [hsign, Sign.spelling] at sign <;> subst sign <;> decide
  · rcases wellFormed.of_mem_body body with digit | rfl
    · exact isBlank_eq_false_of_isDigit digit
    · decide

theorem WellFormed.exists_digit (wellFormed : numeral.WellFormed) :
    ∃ c ∈ numeral.spelling, c.isDigit = true := by
  obtain ⟨c, member⟩ := List.exists_mem_of_ne_nil _ wellFormed.nonempty
  refine ⟨c, ?_, wellFormed.digits c member⟩
  rw [spelling, body, List.mem_append, List.mem_append]
  rcases List.mem_append.1 member with whole | fraction
  · exact .inr (.inl whole)
  · exact .inr (.inr (mem_pointed_iff.2 (.inr fraction)))

end Numeral

/-! ### Quantities -/

namespace Quantity

variable {q : Quantity} {text : String}

/-- A quantity is read from what is left without white space. -/
theorem ofText_eq_ok_iff_readTrimmed :
    Quantity.ofText text = .ok q ↔ readTrimmed (trimBlank text.toList) = .ok q := by
  rw [Quantity.ofText, mapError_eq_ok_iff, parse, mapError_eq_ok_iff, read]

/-- The quantities that texts are read as. -/
theorem ofText_eq_ok_iff : Quantity.ofText text = .ok q ↔ ∃ numeral : Numeral, numeral.WellFormed ∧
    Trimmed text.toList numeral.spelling ∧ q.micros = numeral.micros := by
  simp only [ofText_eq_ok_iff_readTrimmed, readTrimmed_eq_ok_iff_numeral, trimBlank_eq_iff]

theorem unreadable_of_ofText_eq_error {fault : Fault} (h : Quantity.ofText text = .error fault) :
    ∃ reason, fault = .unreadable reason :=
  exists_of_mapError_eq_error h

/-- What a text is read as is not the smallest quantity. -/
theorem min64_lt_of_ofText (h : Quantity.ofText text = .ok q) : min64 < q.micros := by
  obtain ⟨numeral, wellFormed, -, value⟩ := ofText_eq_ok_iff.1 h
  have bounded := wellFormed.bounded
  rw [value, Numeral.micros]
  simp only [min64]
  split_ifs <;> omega

theorem toList_text (q : Quantity) : q.text.toList = q.numeral.spelling := by
  rw [text, String.toList_ofList, render_eq_spelling]

/-- What is written for a quantity is read as that quantity again. -/
theorem ofText_text (h : min64 < q.micros) : Quantity.ofText q.text = .ok q := by
  have wellFormed := wellFormed_numeral h
  refine ofText_eq_ok_iff.2 ⟨q.numeral, wellFormed, ?_, q.micros_numeral.symm⟩
  rw [toList_text]
  exact trimmed_self wellFormed.isBlank_eq_false

/-- A text is canonical for a quantity when it is the spelling of a canonical numeral that stands
for it. -/
def CanonicalText (q : Quantity) (text : String) : Prop :=
  ∃ numeral : Numeral, numeral.WellFormed ∧ numeral.Canonical ∧ text.toList = numeral.spelling ∧
    numeral.micros = q.micros

theorem canonicalText_text (h : min64 < q.micros) : q.CanonicalText q.text :=
  ⟨q.numeral, wellFormed_numeral h, q.canonical_numeral, q.toList_text, q.micros_numeral⟩

end Quantity

/-! ### Words -/

/-- A text has the letters of a word, each of them capital or small. -/
def Spells (text : List Char) (word : String) : Prop :=
  List.Forall₂ (fun c letter => c = letter ∨ c = letter.toUpper) text word.toList

/-- The characters that become a small letter are the letter itself and its capital. -/
theorem toLower_eq_iff {c letter : Char} (small : letter.isLower = true) :
    c.toLower = letter ↔ c = letter ∨ c = letter.toUpper := by
  constructor
  · rintro rfl
    by_cases capital : c.isUpper = true
    · right
      rw [Char.toUpper_toLower_eq_toUpper,
        Char.toUpper_eq_of_not_isLower (Char.not_isLower_of_isUpper capital)]
    · left
      rw [Char.toLower_eq_of_not_isUpper capital]
  · have kept : letter.toLower = letter :=
      Char.toLower_eq_of_not_isUpper (Char.not_isUpper_of_isLower small)
    rintro (rfl | rfl)
    · exact kept
    · rw [Char.toLower_toUpper_eq_toLower, kept]

theorem State.isLower_word (state : State) :
    ∀ letter ∈ state.word.toList, letter.isLower = true := by
  cases state <;> simp [State.word]

namespace Reading

variable {reading : Reading} {text : String}

/-- A word is recognised whatever the case of its letters. -/
theorem isWord_eq_true_iff {word : String} {text : List Char}
    (small : ∀ letter ∈ word.toList, letter.isLower = true) :
    isWord word text = true ↔ Spells text word := by
  rw [isWord, decide_eq_true_eq, Spells]
  generalize word.toList = letters at small
  induction text generalizing letters with
  | nil => cases letters <;> simp
  | cons c text ih =>
      cases letters with
      | nil => simp
      | cons letter letters =>
          have rest := ih letters fun letter member => small letter (List.mem_cons_of_mem _ member)
          rw [List.map_cons, List.cons.injEq, List.forall₂_cons, rest,
            toLower_eq_iff (small letter List.mem_cons_self)]

theorem isAlpha_of_spells {text : List Char} {state : State} (spells : Spells text state.word) :
    ∀ c ∈ text, c.isAlpha = true := by
  intro c member
  have letters : text.map Char.toLower = state.word.toList := by
    simpa [isWord] using (isWord_eq_true_iff state.isLower_word).2 spells
  have letter : c.toLower ∈ state.word.toList := letters ▸ List.mem_map_of_mem member
  rw [← Char.isLower_toLower_eq_isAlpha]
  exact state.isLower_word _ letter

/-- A text read as a quantity is not a word: it has a digit. -/
theorem not_spells_of_ofText {q : Quantity} (h : Quantity.ofText text = .ok q) (state : State) :
    ¬ Spells (trimBlank text.toList) state.word := by
  obtain ⟨numeral, wellFormed, trimmed, -⟩ := Quantity.ofText_eq_ok_iff.1 h
  obtain ⟨c, member, digit⟩ := wellFormed.exists_digit
  rw [trimBlank_eq_iff.2 trimmed]
  intro spells
  have letter := isAlpha_of_spells spells c member
  rw [isDigit_iff_bounds] at digit
  rw [isAlpha_iff_bounds] at letter
  omega

/-! ### Readings -/

/-- The word of a special state is read as that state. -/
theorem readTrimmed_of_spells {text : List Char} {state : State} (spells : Spells text state.word) :
    readTrimmed text = .ok (ofState state) := by
  have word := (isWord_eq_true_iff state.isLower_word).2 spells
  cases state with
  | unknown => rw [readTrimmed, if_pos word]; rfl
  | saturated =>
      have other : ¬ isWord State.unknown.word text = true := by
        simp only [isWord, decide_eq_true_eq] at word ⊢
        rw [word]
        simp [State.word]
      rw [readTrimmed, if_neg other, if_pos word]
      rfl

/-- A text that is no word is read as a quantity. -/
theorem readTrimmed_of_not_spells {text : List Char}
    (none : ∀ state : State, ¬ Spells text state.word) :
    readTrimmed text = (Quantity.read text).map .normal := by
  have word : ∀ state : State, ¬ isWord state.word text = true := by
    intro state
    rw [isWord_eq_true_iff state.isLower_word]
    exact none state
  rw [readTrimmed, if_neg (word .unknown), if_neg (word .saturated)]

/-- A reading is read from what is left without white space. -/
theorem ofText_eq_ok_iff_readTrimmed :
    Reading.ofText text = .ok reading ↔ readTrimmed (trimBlank text.toList) = .ok reading := by
  rw [Reading.ofText, mapError_eq_ok_iff, parse, mapError_eq_ok_iff, read]

/-- The readings that texts are read as. -/
theorem ofText_eq_ok_iff : Reading.ofText text = .ok reading ↔
    (∃ q, reading = .normal q ∧ Quantity.ofText text = .ok q) ∨
      ∃ state word, reading = ofState state ∧ Trimmed text.toList word ∧
        Spells word state.word := by
  rw [ofText_eq_ok_iff_readTrimmed]
  by_cases found : ∃ state : State, Spells (trimBlank text.toList) state.word
  · obtain ⟨state, spells⟩ := found
    constructor
    · intro h
      rw [readTrimmed_of_spells spells] at h
      exact .inr ⟨state, _, (Except.ok.inj h).symm, trimmed_trimBlank _, spells⟩
    · rintro (⟨q, rfl, hq⟩ | ⟨state, word, rfl, trimmed, spells⟩)
      · -- a numeral has a digit, and no word does
        exact absurd spells (not_spells_of_ofText hq state)
      · rw [trimBlank_eq_iff.2 trimmed, readTrimmed_of_spells spells]
  · rw [readTrimmed_of_not_spells (not_exists.1 found), Quantity.read, trimBlank_trimBlank]
    constructor
    · intro h
      cases hread : Quantity.readTrimmed (trimBlank text.toList) with
      | error fault => simp [hread, Except.map] at h
      | ok q =>
          obtain rfl : Reading.normal q = reading := by simpa [hread, Except.map] using h
          exact .inl ⟨q, rfl, Quantity.ofText_eq_ok_iff_readTrimmed.2 hread⟩
    · rintro (⟨q, rfl, hq⟩ | ⟨state, word, rfl, trimmed, spells⟩)
      · rw [Quantity.ofText_eq_ok_iff_readTrimmed.1 hq]
        rfl
      · rw [← trimBlank_eq_iff.2 trimmed] at spells
        exact absurd ⟨state, spells⟩ found

theorem unreadable_of_ofText_eq_error {fault : Fault} (h : Reading.ofText text = .error fault) :
    ∃ reason, fault = .unreadable reason :=
  exists_of_mapError_eq_error h

theorem text_ofState (state : State) : (ofState state).text = state.word := by
  cases state <;> exact String.ofList_toList

theorem ofText_word (state : State) : Reading.ofText state.word = .ok (ofState state) := by
  have spells : Spells state.word.toList state.word := List.forall₂_same.2 fun c _ => .inl rfl
  refine ofText_eq_ok_iff.2 (.inr ⟨state, state.word.toList, rfl, trimmed_self ?_, spells⟩)
  intro c member
  exact isBlank_eq_false_of_isAlpha (isAlpha_of_spells spells c member)

/-- What is written for a reading that was read is read as that reading again. -/
theorem ofText_text_of_ofText (h : Reading.ofText text = .ok reading) :
    Reading.ofText reading.text = .ok reading := by
  obtain ⟨q, rfl, hq⟩ | ⟨state, word, rfl, -, -⟩ := ofText_eq_ok_iff.1 h
  · have again := Quantity.ofText_text (Quantity.min64_lt_of_ofText hq)
    exact ofText_eq_ok_iff.2 (.inl ⟨q, rfl, again⟩)
  · rw [text_ofState, ofText_word]

/-- **The texts that are read, and what is written for them.**  A text is read as a quantity exactly
when it is a well-formed numeral with white space around it, and as a reading exactly when it is
that or the word of a special state in any mixture of capital and small letters; every other text is
unreadable.  What was read is written in canonical form, and is read from there again. -/
theorem ofText_grammar (text : String) :
    (∀ q, Quantity.ofText text = .ok q ↔ ∃ numeral : Numeral, numeral.WellFormed ∧
        Trimmed text.toList numeral.spelling ∧ q.micros = numeral.micros) ∧
      (∀ fault, Quantity.ofText text = .error fault → ∃ reason, fault = .unreadable reason) ∧
      (∀ reading, Reading.ofText text = .ok reading ↔
        (∃ q, reading = .normal q ∧ Quantity.ofText text = .ok q) ∨
          ∃ state word, reading = ofState state ∧ Trimmed text.toList word ∧
            Spells word state.word) ∧
      (∀ fault, Reading.ofText text = .error fault → ∃ reason, fault = .unreadable reason) ∧
      (∀ q, Quantity.ofText text = .ok q →
        q.CanonicalText q.text ∧ Quantity.ofText q.text = .ok q) ∧
      ∀ reading, Reading.ofText text = .ok reading →
        (∀ q, reading = .normal q → q.CanonicalText reading.text) ∧
        (∀ state, reading = ofState state → reading.text = state.word) ∧
        Reading.ofText reading.text = .ok reading := by
  refine ⟨fun q => Quantity.ofText_eq_ok_iff,
    fun fault => Quantity.unreadable_of_ofText_eq_error, fun reading => ofText_eq_ok_iff,
    fun fault => unreadable_of_ofText_eq_error, ?_, ?_⟩
  · intro q h
    have greater := Quantity.min64_lt_of_ofText h
    exact ⟨Quantity.canonicalText_text greater, Quantity.ofText_text greater⟩
  · intro reading h
    refine ⟨?_, ?_, ofText_text_of_ofText h⟩
    · rintro q rfl
      obtain ⟨q', same, hq⟩ | ⟨state, word, same, -, -⟩ := ofText_eq_ok_iff.1 h
      · obtain rfl : q = q' := Reading.normal.inj same
        exact Quantity.canonicalText_text (Quantity.min64_lt_of_ofText hq)
      · cases state <;> simp [ofState] at same
    · rintro state rfl
      exact text_ofState state

end Reading

/-! ### The smallest quantity -/

namespace Quantity

def smallest : Quantity := ⟨min64, by decide⟩

/-- What is said about the text of the smallest quantity. -/
def smallestFault : Fault := .unreadable (TextFault.message .tooLarge smallest.text)

theorem min64_lt_micros_iff {q : Quantity} : min64 < q.micros ↔ q ≠ smallest := by
  constructor
  · rintro less rfl
    exact lt_irrefl _ less
  · intro other
    refine lt_of_le_of_ne q.fits.1 ?_
    intro same
    exact other (ext same.symm)

end Quantity

namespace Reading

/-! ### Written texts -/

theorem ofText_text_smallest :
    Reading.ofText (normal .smallest).text = .error Quantity.smallestFault := by
  rfl

/-- What a written reading is read as. -/
theorem ofText_text (reading : Reading) :
    Reading.ofText reading.text =
      if reading = .normal .smallest then .error Quantity.smallestFault else .ok reading := by
  split_ifs with smallest
  · rw [smallest, ofText_text_smallest]
  · cases reading with
    | normal q =>
        have other : q ≠ .smallest := by
          rintro rfl
          exact smallest rfl
        have read := Quantity.ofText_text (Quantity.min64_lt_micros_iff.2 other)
        exact ofText_eq_ok_iff.2 (.inl ⟨q, rfl, read⟩)
    | saturated => exact ofText_word .saturated
    | unknown => exact ofText_word .unknown

/-! ### Written documents -/

theorem ofDocument_toDocument (reading : Reading) :
    Reading.ofDocument reading.toDocument =
      if reading = .normal .smallest then .error (.unreadable Quantity.smallestFault)
      else .ok reading := by
  have read : Reading.ofDocument reading.toDocument =
      (Reading.ofText reading.text).mapError .unreadable := rfl
  rw [read, ofText_text]
  split_ifs <;> rfl

/-- What the document of a list is read as: reading stops at the smallest quantity, and nowhere
else. -/
theorem listOfDocument_listToDocument (readings : List Reading) :
    Reading.listOfDocument (Reading.listToDocument readings) =
      if .normal .smallest ∈ readings then .error (.unreadable Quantity.smallestFault)
      else .ok readings := by
  have elements : Reading.listOfDocument (Reading.listToDocument readings) =
      (readings.map Reading.toDocument).mapM Reading.ofDocument := rfl
  rw [elements]
  clear elements
  induction readings with
  | nil => rfl
  | cons reading readings ih =>
      rw [List.map_cons, List.mapM_cons, ofDocument_toDocument, ih]
      by_cases first : reading = .normal .smallest
      · have member : .normal .smallest ∈ reading :: readings := first ▸ List.mem_cons_self
        rw [if_pos first, if_pos member]
        rfl
      · rw [if_neg first]
        by_cases later : .normal .smallest ∈ readings
        · rw [if_pos later, if_pos (List.mem_cons_of_mem _ later)]
          rfl
        · have absent : .normal .smallest ∉ reading :: readings :=
            List.not_mem_cons_of_ne_of_not_mem (Ne.symm first) later
          rw [if_neg later, if_neg absent]
          rfl

/-- **What is written is read again.**  A reading comes back from its text exactly when it is not
the smallest quantity, and a list from its document exactly when that quantity is not in it;
otherwise, and only then, the number is refused as too large. -/
theorem written_iff_ne_smallest (reading : Reading) (readings : List Reading) :
    (Reading.ofText reading.text = .ok reading ↔ reading ≠ .normal .smallest) ∧
      (Reading.ofText reading.text = .error Quantity.smallestFault ↔
        reading = .normal .smallest) ∧
      (Reading.listOfDocument (Reading.listToDocument readings) = .ok readings ↔
        .normal .smallest ∉ readings) ∧
      (Reading.listOfDocument (Reading.listToDocument readings) =
          .error (.unreadable Quantity.smallestFault) ↔ .normal .smallest ∈ readings) := by
  rw [ofText_text, listOfDocument_listToDocument, ← and_assoc]
  constructor
  · by_cases smallest : reading = .normal .smallest <;> simp [smallest]
  · by_cases member : .normal .smallest ∈ readings <;> simp [member]

/-- One reading does not come back: the smallest quantity is written, and its text is refused. -/
theorem not_forall_ofText_text :
    ¬ (∀ reading : Reading, Reading.ofText reading.text = .ok reading) ∧
      (normal .smallest).text = "-9223372036854.775808" ∧
      Reading.ofText "-9223372036854.775808" =
        .error (.unreadable "number too large: \"-9223372036854.775808\"") := by
  refine ⟨?_, by decide +kernel, by decide +kernel⟩
  intro all
  have read := all (.normal .smallest)
  rw [ofText_text_smallest] at read
  cases read

end Reading

end DeviceProperty
