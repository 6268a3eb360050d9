/-
**Quantities, their numerals and their parts.**

A numeral is a sign or none, digits, and perhaps a point with digits behind it; it stands for a
number of millionths.  Reading accepts the spellings of well-formed numerals — a digit at least, no
more than six of them behind the point, and a number inside the range — and nothing else.  Among the
numerals of a quantity the canonical one is written, and it is read again as the same quantity, but
for the smallest quantity: its millionths have no counterpart above zero, and no text is read as it.

A quantity is built from a whole part and millionths by a product and a sum, and each of the two
stops at the end of the range.  This is the exact sum, stopped once, unless the whole part alone
leaves the range on one side and the millionths point to the other: then they are counted from the
end of the range, and what lies beyond it is lost.

Main definitions:

* `DeviceProperty.Numeral`, `DeviceProperty.Numeral.WellFormed`,
  `DeviceProperty.Numeral.Canonical` — numerals, those that are read and those that are written;
* `DeviceProperty.Quantity.numeral` — the numeral that is written for a quantity;
* `DeviceProperty.Quantity.Overshoots` — the whole part leaves the range, and the millionths point
  back.

Main results:

* `DeviceProperty.Quantity.readTrimmed_eq_ok_iff_numeral` — **reading accepts the spellings of
  well-formed numerals, and answers with what they stand for**;
* `DeviceProperty.Quantity.canonical_numeral`, `DeviceProperty.Quantity.wellFormed_numeral` — what
  is written is canonical, and is read again;
* `DeviceProperty.Quantity.ofParts_exact_or_overshoots` — **what a quantity is built from**.
-/

import Mathlib
import DeviceProperty.Proofs.Text
import DeviceProperty.Quantity

set_option relaxedAutoImplicit false
set_option autoImplicit false

namespace DeviceProperty

/-! ### Numerals -/

inductive Sign where
  | absent
  | plus
  | minus
deriving DecidableEq, Repr

def Sign.spelling : Sign → List Char
  | absent => []
  | plus => ['+']
  | minus => ['-']

/-- A decimal number as it is spelled: a sign, the digits before the point and, where there is a
point, those behind it. -/
structure Numeral where
  sign : Sign
  whole : List Char
  fraction : Option (List Char)
deriving DecidableEq, Repr

namespace Numeral

/-- The digits behind the point; none without a point. -/
def decimals (numeral : Numeral) : List Char := numeral.fraction.getD []

/-- A point and the digits behind it, if there is one. -/
def pointed : Option (List Char) → List Char
  | none => []
  | some fraction => '.' :: fraction

theorem mem_pointed_iff {fraction : Option (List Char)} {c : Char} :
    c ∈ pointed fraction ↔ fraction ≠ none ∧ c = '.' ∨ c ∈ fraction.getD [] := by
  cases fraction <;> simp [pointed]

/-- A numeral without its sign, in characters. -/
def body (numeral : Numeral) : List Char := numeral.whole ++ pointed numeral.fraction

/-- A numeral in characters. -/
def spelling (numeral : Numeral) : List Char := numeral.sign.spelling ++ numeral.body

/-- The millionths that the digits of a numeral stand for. -/
def magnitude (numeral : Numeral) : ℕ :=
  Nat.ofDigitChars 10 numeral.whole 0 * 10 ^ 6 +
    Nat.ofDigitChars 10 numeral.decimals 0 * 10 ^ (6 - numeral.decimals.length)

/-- The millionths that a numeral stands for. -/
def micros (numeral : Numeral) : ℤ :=
  if numeral.sign = .minus then -(numeral.magnitude : ℤ) else numeral.magnitude

/-- The numerals that stand for quantities. -/
structure WellFormed (numeral : Numeral) : Prop where
  digits : ∀ c ∈ numeral.whole ++ numeral.decimals, c.isDigit = true
  nonempty : numeral.whole ++ numeral.decimals ≠ []
  fine : numeral.decimals.length ≤ 6
  bounded : numeral.magnitude ≤ 2 ^ 63 - 1

variable {numeral : Numeral}

theorem WellFormed.whole_ne_point (wellFormed : numeral.WellFormed) :
    ∀ c ∈ numeral.whole, c ≠ '.' := by
  rintro c member rfl
  exact absurd (wellFormed.digits _ (List.mem_append_left _ member)) (by decide)

/-- What follows the sign of a numeral is digits and a point. -/
theorem WellFormed.of_mem_body (wellFormed : numeral.WellFormed) {c : Char}
    (member : c ∈ numeral.body) : c.isDigit = true ∨ c = '.' := by
  rw [body, List.mem_append, mem_pointed_iff] at member
  rcases member with whole | ⟨-, point⟩ | fraction
  · exact .inl (wellFormed.digits c (List.mem_append_left _ whole))
  · exact .inr point
  · exact .inl (wellFormed.digits c (List.mem_append_right _ fraction))

theorem WellFormed.head?_body (wellFormed : numeral.WellFormed) :
    ∀ c ∈ numeral.body.head?, c ≠ '-' ∧ c ≠ '+' := by
  intro c hc
  rcases wellFormed.of_mem_body (List.mem_of_head? hc) with digit | rfl
  · constructor <;> (rintro rfl; exact absurd digit (by decide))
  · decide

end Numeral

namespace Quantity

variable {text body whole : List Char} {q : Quantity}

/-! ### Taking a numeral apart -/

/-- A sign is told from what follows it. -/
theorem splitSign_append (sign : Sign) (hbody : ∀ c ∈ body.head?, c ≠ '-' ∧ c ≠ '+') :
    splitSign (sign.spelling ++ body) = (decide (sign = .minus), body) := by
  cases sign with
  | absent =>
      cases body with
      | nil => rfl
      | cons c body =>
          obtain ⟨notMinus, notPlus⟩ := hbody c rfl
          rw [Sign.spelling, List.nil_append, splitSign.eq_def]
          split <;> simp_all
  | plus => rfl
  | minus => rfl

/-- Every text is a sign, or none, and the rest. -/
theorem exists_sign (text : List Char) : ∃ (sign : Sign) (body : List Char),
    text = sign.spelling ++ body ∧ splitSign text = (decide (sign = .minus), body) := by
  rw [splitSign.eq_def]
  split
  · exact ⟨.minus, _, rfl, rfl⟩
  · exact ⟨.plus, _, rfl, rfl⟩
  · exact ⟨.absent, _, rfl, rfl⟩

/-- The point is found behind digits. -/
theorem splitPoint_append (fraction : Option (List Char)) (hwhole : ∀ c ∈ whole, c ≠ '.') :
    splitPoint (whole ++ Numeral.pointed fraction) = (whole, fraction.getD []) := by
  have before : ∀ c ∈ whole, decide (c ≠ '.') = true := by simpa using hwhole
  rw [splitPoint, List.takeWhile_append_of_pos before, List.dropWhile_append_of_pos before]
  cases fraction <;> simp [Numeral.pointed]

/-- Every text is what stands before its first point, and a point with the rest, or nothing. -/
theorem exists_point (body : List Char) : ∃ (whole : List Char) (fraction : Option (List Char)),
    body = whole ++ Numeral.pointed fraction ∧ splitPoint body = (whole, fraction.getD []) := by
  have split : body.takeWhile (· ≠ '.') ++ body.dropWhile (· ≠ '.') = body :=
    List.takeWhile_append_dropWhile
  refine ⟨body.takeWhile (· ≠ '.'), ?_⟩
  cases hrest : body.dropWhile (· ≠ '.') with
  | nil =>
      refine ⟨none, ?_, by rw [splitPoint, hrest]; rfl⟩
      rw [Numeral.pointed, ← hrest, split]
  | cons c rest =>
      have stops := List.head?_dropWhile_not (· ≠ '.') body
      rw [hrest] at stops
      obtain rfl : c = '.' := by simpa using stops
      refine ⟨some rest, ?_, by rw [splitPoint, hrest]; rfl⟩
      rw [Numeral.pointed, ← hrest, split]

/-! ### Reading -/

/-- Digits behind the point are completed to six of them. -/
theorem decimalMicros_numeral (numeral : Numeral) :
    decimalMicros numeral.whole numeral.decimals = numeral.magnitude := by
  rw [decimalMicros, ofDigitChars_rightpad]
  rfl

/-- A text that is taken apart into a numeral is read when the numeral is well formed, as the
millionths that it stands for. -/
theorem readTrimmed_eq_ok_iff (numeral : Numeral)
    (hsign : splitSign text = (decide (numeral.sign = .minus), body))
    (hpoint : splitPoint body = (numeral.whole, numeral.decimals)) :
    readTrimmed text = .ok q ↔ numeral.WellFormed ∧ q.micros = numeral.micros := by
  simp only [readTrimmed, hsign, hpoint, decimalMicros_numeral]
  by_cases hempty : numeral.whole = [] ∧ numeral.decimals = []
  · rw [if_pos hempty]
    refine iff_of_false (by simp) ?_
    rintro ⟨wellFormed, -⟩
    exact wellFormed.nonempty (by simp [hempty])
  rw [if_neg hempty]
  by_cases hdigits : (numeral.whole ++ numeral.decimals).all Char.isDigit = true
  swap
  · rw [if_pos hdigits]
    refine iff_of_false (by simp) ?_
    rintro ⟨wellFormed, -⟩
    exact hdigits (List.all_eq_true.2 wellFormed.digits)
  rw [if_neg (not_not.2 hdigits)]
  by_cases hcoarse : fractionDigits < numeral.decimals.length
  · rw [if_pos hcoarse]
    refine iff_of_false (by simp) ?_
    rintro ⟨wellFormed, -⟩
    exact hcoarse.not_ge wellFormed.fine
  rw [if_neg hcoarse]
  by_cases hbounded : (numeral.magnitude : ℤ) ≤ max64
  swap
  · rw [dif_neg hbounded]
    refine iff_of_false (by simp) ?_
    rintro ⟨wellFormed, -⟩
    have bounded := wellFormed.bounded
    simp only [max64] at hbounded
    omega
  rw [dif_pos hbounded]
  have wellFormed : numeral.WellFormed := by
    refine ⟨List.all_eq_true.1 hdigits, by simpa using hempty, not_lt.1 hcoarse, ?_⟩
    simp only [max64] at hbounded
    omega
  simp only [Except.ok.injEq, wellFormed, true_and, decide_eq_true_eq]
  constructor
  · rintro rfl
    rfl
  · intro same
    exact Quantity.ext same.symm

/-- **Reading accepts the spellings of well-formed numerals**, and answers with the millionths that
they stand for. -/
theorem readTrimmed_eq_ok_iff_numeral :
    readTrimmed text = .ok q ↔ ∃ numeral : Numeral, numeral.WellFormed ∧
      text = numeral.spelling ∧ q.micros = numeral.micros := by
  constructor
  · intro h
    obtain ⟨sign, body, rfl, hsign⟩ := exists_sign text
    obtain ⟨whole, fraction, rfl, hpoint⟩ := exists_point body
    obtain ⟨wellFormed, value⟩ := (readTrimmed_eq_ok_iff ⟨sign, whole, fraction⟩ hsign hpoint).1 h
    exact ⟨⟨sign, whole, fraction⟩, wellFormed, rfl, value⟩
  · rintro ⟨numeral, wellFormed, rfl, value⟩
    have hsign := splitSign_append numeral.sign wellFormed.head?_body
    have hpoint := splitPoint_append numeral.fraction wellFormed.whole_ne_point
    exact (readTrimmed_eq_ok_iff numeral hsign hpoint).2 ⟨wellFormed, value⟩

end Quantity

/-- The numerals that are written. -/
structure Numeral.Canonical (numeral : Numeral) : Prop where
  /-- There is no plus sign. -/
  signed : numeral.sign ≠ .plus
  /-- There is a digit before the point. -/
  whole_ne_nil : numeral.whole ≠ []
  /-- Nothing but a single zero begins with a zero. -/
  leading : numeral.whole.head? = some '0' → numeral.whole = ['0']
  /-- There is a digit behind every point. -/
  pointed : numeral.fraction ≠ some []
  /-- The digits behind the point do not end in a zero. -/
  trailing : numeral.decimals.getLast? ≠ some '0'
  /-- Zero has no sign. -/
  nonzero : numeral.sign = .minus → numeral.magnitude ≠ 0

namespace Quantity

/-! ### Zeros at the end -/

/-- What is dropped from the end of digits is zeros, as many as there are places left. -/
theorem dropTrailingZeros_append_replicate (digits : List Char) :
    dropTrailingZeros digits ++
      List.replicate (digits.length - (dropTrailingZeros digits).length) '0' = digits := by
  have split : dropTrailingZeros digits ++ digits.rtakeWhile (· = '0') = digits :=
    List.rdropWhile_append_rtakeWhile ..
  have zeros : digits.rtakeWhile (· = '0') =
      List.replicate (digits.rtakeWhile (· = '0')).length '0' := by
    refine List.eq_replicate_iff.2 ⟨rfl, fun c hc => ?_⟩
    simpa using List.mem_rtakeWhile_imp hc
  have size := congrArg List.length split
  rw [List.length_append] at size
  have count : digits.length - (dropTrailingZeros digits).length =
      (digits.rtakeWhile (· = '0')).length := by
    omega
  rw [count, ← zeros, split]

theorem length_dropTrailingZeros_le (digits : List Char) :
    (dropTrailingZeros digits).length ≤ digits.length :=
  (List.rdropWhile_prefix (· = '0') digits).length_le

theorem getLast?_dropTrailingZeros (digits : List Char) :
    (dropTrailingZeros digits).getLast? ≠ some '0' := by
  intro ends
  have nonempty : digits.rdropWhile (· = '0') ≠ [] := List.ne_nil_of_mem (List.mem_of_getLast? ends)
  have last := List.rdropWhile_last_not (· = '0') digits nonempty
  have zero : (digits.rdropWhile (· = '0')).getLast nonempty = '0' :=
    Option.some.inj ((List.getLast?_eq_some_getLast nonempty).symm.trans ends)
  simp [zero] at last

theorem mem_of_mem_dropTrailingZeros {digits : List Char} {c : Char}
    (h : c ∈ dropTrailingZeros digits) : c ∈ digits :=
  (List.rdropWhile_prefix (· = '0') digits).mem h

/-! ### The fraction -/

/-- The digits behind the point that are written for a fraction. -/
def decimalsOf (fraction : ℕ) : List Char :=
  dropTrailingZeros (List.leftpad fractionDigits '0' (Nat.toDigits 10 fraction))

theorem length_leftpad_toDigits {fraction : ℕ} (hlt : fraction < 10 ^ 6) :
    (List.leftpad fractionDigits '0' (Nat.toDigits 10 fraction)).length = 6 := by
  have short := (Nat.length_toDigits_le_iff (b := 10) (by decide) (by decide)).2 hlt
  rw [List.length_leftpad, max_eq_left short]

/-- The digits behind the point stand for the fraction. -/
theorem ofDigitChars_decimalsOf {fraction : ℕ} (hlt : fraction < 10 ^ 6) :
    Nat.ofDigitChars 10 (decimalsOf fraction) 0 * 10 ^ (6 - (decimalsOf fraction).length) =
      fraction := by
  have whole := dropTrailingZeros_append_replicate
    (List.leftpad fractionDigits '0' (Nat.toDigits 10 fraction))
  rw [length_leftpad_toDigits hlt] at whole
  rw [← ofDigitChars_append_replicate, decimalsOf, whole, ofDigitChars_leftpad,
    Nat.ofDigitChars_ten_toDigits]

theorem length_decimalsOf_le {fraction : ℕ} (hlt : fraction < 10 ^ 6) :
    (decimalsOf fraction).length ≤ 6 :=
  (length_dropTrailingZeros_le _).trans (length_leftpad_toDigits hlt).le

theorem decimalsOf_ne_nil {fraction : ℕ} (hpos : 0 < fraction) (hlt : fraction < 10 ^ 6) :
    decimalsOf fraction ≠ [] := by
  intro empty
  have value := ofDigitChars_decimalsOf hlt
  simp only [empty, Nat.ofDigitChars_nil] at value
  omega

theorem isDigit_of_mem_decimalsOf {fraction : ℕ} {c : Char} (h : c ∈ decimalsOf fraction) :
    c.isDigit = true := by
  have member := mem_of_mem_dropTrailingZeros h
  rw [List.leftpad, List.mem_append] at member
  rcases member with zero | digit
  · rw [List.eq_of_mem_replicate zero]
    decide
  · exact Nat.isDigit_of_mem_toDigits (by decide) (by decide) digit

/-! ### The numeral of a quantity -/

/-- The numeral that is written for a quantity. -/
def numeral (q : Quantity) : Numeral where
  sign := if q.isNegative then .minus else .absent
  whole := Nat.toDigits 10 (q.micros.natAbs / 10 ^ 6)
  fraction :=
    if q.micros.natAbs % 10 ^ 6 = 0 then none else some (decimalsOf (q.micros.natAbs % 10 ^ 6))

theorem sign_numeral_eq_minus_iff (q : Quantity) : q.numeral.sign = .minus ↔ q.micros < 0 := by
  by_cases negative : q.micros < 0 <;> simp [numeral, isNegative, negative]

/-- The numeral of a whole quantity has no point, and no digit of a fraction would stand behind
it. -/
theorem decimals_numeral (q : Quantity) :
    q.numeral.decimals = decimalsOf (q.micros.natAbs % 10 ^ 6) := by
  by_cases hwhole : q.micros.natAbs % 10 ^ 6 = 0
  · have point : q.numeral.fraction = none := if_pos hwhole
    rw [Numeral.decimals, point, hwhole]
    rfl
  · have point : q.numeral.fraction = some _ := if_neg hwhole
    rw [Numeral.decimals, point]
    rfl

theorem render_eq_spelling (q : Quantity) : q.render = q.numeral.spelling := by
  have unit : microsPerUnit.toNat = 10 ^ 6 := rfl
  simp only [render, unit, Numeral.spelling, Numeral.body, numeral, List.append_assoc]
  congr 1
  · split_ifs <;> rfl
  · congr 1
    rw [renderFraction]
    split_ifs <;> rfl

/-- The digits of the numeral stand for the millionths without their sign. -/
theorem magnitude_numeral (q : Quantity) : q.numeral.magnitude = q.micros.natAbs := by
  have whole : q.numeral.whole = Nat.toDigits 10 (q.micros.natAbs / 10 ^ 6) := rfl
  rw [Numeral.magnitude, whole, Nat.ofDigitChars_ten_toDigits, decimals_numeral,
    ofDigitChars_decimalsOf (Nat.mod_lt _ (by decide)), Nat.div_add_mod']

theorem micros_numeral (q : Quantity) : q.numeral.micros = q.micros := by
  rw [Numeral.micros, magnitude_numeral]
  split_ifs with minus
  · have negative := q.sign_numeral_eq_minus_iff.1 minus
    omega
  · have nonnegative := mt q.sign_numeral_eq_minus_iff.2 minus
    omega

/-- Every quantity but the smallest is written as a numeral that is read. -/
theorem wellFormed_numeral {q : Quantity} (h : min64 < q.micros) : q.numeral.WellFormed := by
  refine ⟨?_, ?_, ?_, ?_⟩
  · intro c hc
    rw [decimals_numeral] at hc
    rcases List.mem_append.1 hc with whole | fraction
    · exact Nat.isDigit_of_mem_toDigits (by decide) (by decide) whole
    · exact isDigit_of_mem_decimalsOf fraction
  · exact List.append_ne_nil_of_left_ne_nil Nat.toDigits_ne_nil _
  · rw [decimals_numeral]
    exact length_decimalsOf_le (Nat.mod_lt _ (by decide))
  · have fits := q.fits
    rw [magnitude_numeral]
    simp only [Fits64, min64, max64] at fits h
    omega

/-- **Quantities are written in canonical form.** -/
theorem canonical_numeral (q : Quantity) : q.numeral.Canonical := by
  refine ⟨?_, Nat.toDigits_ne_nil, ?_, ?_, ?_, ?_⟩
  · rw [numeral]
    by_cases negative : q.isNegative <;> simp [negative]
  · intro zero
    -- only the digits of zero begin with a zero
    have hwhole : q.micros.natAbs / 10 ^ 6 = 0 := by
      by_contra positive
      exact head?_toDigits_ne_zero (Nat.pos_of_ne_zero positive) zero
    show Nat.toDigits 10 (q.micros.natAbs / 10 ^ 6) = ['0']
    rw [hwhole]
    rfl
  · by_cases hwhole : q.micros.natAbs % 10 ^ 6 = 0
    · have point : q.numeral.fraction = none := if_pos hwhole
      simp [point]
    · have point : q.numeral.fraction = some _ := if_neg hwhole
      have nonempty := decimalsOf_ne_nil (Nat.pos_of_ne_zero hwhole) (Nat.mod_lt _ (by decide))
      simpa [point] using nonempty
  · rw [decimals_numeral]
    exact getLast?_dropTrailingZeros _
  · intro minus
    have negative := q.sign_numeral_eq_minus_iff.1 minus
    rw [magnitude_numeral]
    omega

variable {whole micros : ℤ}

/-- The whole part leaves the range, and the millionths point back into it. -/
def Overshoots (whole micros : ℤ) : Prop :=
  max64 < whole * microsPerUnit ∧ micros < 0 ∨ whole * microsPerUnit < min64 ∧ 0 < micros

instance (whole micros : ℤ) : Decidable (Overshoots whole micros) :=
  inferInstanceAs (Decidable (_ ∨ _))

/-! ### Stopping twice and stopping once -/

/-- Two numbers have the same quantity nearest to them when they stop at the same number. -/
theorem clamped_eq_iff {m n : ℤ} : clamped m = clamped n ↔ clamp64 m = clamp64 n := by
  constructor
  · intro same
    exact congrArg Quantity.micros same
  · intro same
    exact ext same

/-- Parts that overshoot are counted from the end of the range. -/
theorem micros_ofParts_of_overshoots (hmicros : Fits64 micros) (h : Overshoots whole micros) :
    (ofParts whole micros).micros = clamp64 (whole * microsPerUnit) + micros := by
  -- one of the ends, and less than the whole range back from it
  apply clamp64_of_fits
  simp only [Overshoots, Fits64, clamp64, min64, max64] at *
  omega

/-- Parts that do not overshoot make up the exact sum, stopped once, and no other parts do. -/
theorem ofParts_eq_clamped_iff (hmicros : Fits64 micros) :
    ofParts whole micros = clamped (whole * microsPerUnit + micros) ↔
      ¬ Overshoots whole micros := by
  rw [ofParts, clamped_eq_iff]
  constructor
  · intro same past
    simp only [Overshoots, Fits64, clamp64, min64, max64] at *
    omega
  · intro straight
    simp only [Overshoots, clamp64, min64, max64] at *
    omega

/-! ### Together again -/

theorem clamped_wholePart_fraction (q : Quantity) :
    clamped (q.wholePart * microsPerUnit + q.fraction) = q := by
  apply ext
  rw [q.wholePart_fraction.1]
  exact clamp64_of_fits q.fits

/-- The parts of a quantity overshoot when its whole part is the unit below the range. -/
theorem overshoots_wholePart_fraction_iff (q : Quantity) :
    Overshoots q.wholePart q.fraction ↔ q.micros < -9223372036854 * microsPerUnit := by
  obtain ⟨sum, small⟩ := q.wholePart_fraction
  have range := q.fits
  simp only [Overshoots, Fits64, min64, max64, microsPerUnit] at *
  omega

/-- A quantity comes back from its parts unless it is below the last whole unit of the range. -/
theorem ofParts_wholePart_fraction_iff (q : Quantity) :
    ofParts q.wholePart q.fraction = q ↔ -9223372036854 * microsPerUnit ≤ q.micros := by
  obtain ⟨-, small⟩ := q.wholePart_fraction
  have fits : Fits64 q.fraction := by
    simp only [Fits64, min64, max64, microsPerUnit] at *
    omega
  rw [← not_lt, ← overshoots_wholePart_fraction_iff, ← ofParts_eq_clamped_iff fits,
    clamped_wholePart_fraction]

/-- **What a quantity is built from.**  The quantity of a whole part and millionths is their exact
sum, stopped at the end of the range, exactly when they do not overshoot; if they do, the millionths
are counted from the end that the whole part has passed.  A sum in range is then itself the quantity
exactly when the parts do not overshoot, and a quantity comes back from its parts exactly when it is
not below the last whole unit of the range. -/
theorem ofParts_exact_or_overshoots (whole : ℤ) {micros : ℤ} (hmicros : Fits64 micros)
    (q : Quantity) :
    ((ofParts whole micros = clamped (whole * microsPerUnit + micros) ↔ ¬ Overshoots whole micros) ∧
      (Fits64 (whole * microsPerUnit + micros) →
        ((ofParts whole micros).micros = whole * microsPerUnit + micros ↔
          ¬ Overshoots whole micros)) ∧
      (Overshoots whole micros →
        (ofParts whole micros).micros = clamp64 (whole * microsPerUnit) + micros)) ∧
      (ofParts q.wholePart q.fraction = q ↔ -9223372036854 * microsPerUnit ≤ q.micros) := by
  refine ⟨⟨ofParts_eq_clamped_iff hmicros, ?_, micros_ofParts_of_overshoots hmicros⟩,
    ofParts_wholePart_fraction_iff q⟩
  intro representable
  have exact : (clamped (whole * microsPerUnit + micros)).micros = whole * microsPerUnit + micros :=
    clamp64_of_fits representable
  rw [← ofParts_eq_clamped_iff hmicros]
  constructor
  · intro same
    exact ext (same.trans exact.symm)
  · intro same
    rw [same, exact]

/-- Five hundredths below zero are exact, and come back.  A whole part just above the range and
three tenths of a unit less make up a number in range, and another quantity is built from them; the
smallest quantity does not come back. -/
theorem ofParts_exact_or_overshoots_atTheEnd :
    (Fits64 (-50000) ∧ ofParts 0 (-50000) = clamped (-50000) ∧
        ofParts (-1) 950000 = ofParts 0 (-50000)) ∧
      Fits64 (-300000) ∧ Fits64 (9223372036855 * microsPerUnit + -300000) ∧
        (ofParts 9223372036855 (-300000)).micros = 9223372036854475807 ∧
        (ofParts 9223372036855 (-300000)).micros ≠ 9223372036855 * microsPerUnit + -300000 ∧
        ofParts (-9223372036855) 224192 ≠ clamped min64 := by
  have plain : Fits64 (-50000) := by decide
  have short : Fits64 (-300000) := by decide
  have representable : Fits64 (9223372036855 * microsPerUnit + -300000) := by decide
  have past : Overshoots 9223372036855 (-300000) := by decide
  obtain ⟨⟨once, -, -⟩, back⟩ := ofParts_exact_or_overshoots 0 plain (ofParts 0 (-50000))
  obtain ⟨⟨-, exact, counted⟩, lost⟩ :=
    ofParts_exact_or_overshoots 9223372036855 short (clamped min64)
  refine ⟨⟨plain, once.2 (by decide), back.2 (by decide)⟩, short, representable, ?_, ?_, ?_⟩
  · rw [counted past]
    decide
  · intro same
    exact (exact representable).1 same past
  · intro same
    exact absurd (lost.1 same) (by decide)

/-- Stopping twice is not stopping once: with three tenths of a unit less, a whole part just above
the range makes up a number in range, and another quantity is built from them; and the smallest
quantity does not come back from its parts. -/
theorem not_forall_ofParts_eq_clamped :
    ¬ (∀ whole micros : ℤ, Fits64 whole → Fits64 micros →
        ofParts whole micros = clamped (whole * microsPerUnit + micros)) ∧
      ¬ (∀ q : Quantity, ofParts q.wholePart q.fraction = q) ∧
      clamped (9223372036855 * microsPerUnit + -300000) = ⟨9223372036854700000, by decide⟩ ∧
      ofParts 9223372036855 (-300000) = ⟨9223372036854475807, by decide⟩ := by
  have once :
      clamped (9223372036855 * microsPerUnit + -300000) = ⟨9223372036854700000, by decide⟩ := by rfl
  have twice : ofParts 9223372036855 (-300000) = ⟨9223372036854475807, by decide⟩ := by rfl
  refine ⟨?_, ?_, once, twice⟩
  · intro all
    have same := all 9223372036855 (-300000) (by decide) (by decide)
    rw [once, twice] at same
    exact absurd (congrArg Quantity.micros same) (by decide)
  · intro all
    exact absurd (congrArg Quantity.micros (all ⟨min64, by decide⟩)) (by decide)

end Quantity

end DeviceProperty
