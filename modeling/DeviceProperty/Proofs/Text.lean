/-
**Digits and white space.**

The digits of a number have no zero in front, unless the number is zero.  Zeros added in front of
digits change nothing, and each zero added behind them multiplies the number by ten.

Trimming is said without the loop that does it: a text is some white space, what is left, and some
white space again, and what is left neither begins nor ends in white space.  There is only one way
to take a text apart like this.

Main definitions:

* `DeviceProperty.Trimmed` — what is left of a text without the white space around it.

Main results:

* `DeviceProperty.ofDigitChars_leftpad`, `DeviceProperty.ofDigitChars_rightpad` — zeros added at
  either end;
* `DeviceProperty.trimBlank_eq_iff` — **trimming finds what is left**.
-/

import Mathlib
import DeviceProperty.Text

set_option relaxedAutoImplicit false
set_option autoImplicit false

namespace DeviceProperty

/-! ### Digits -/

theorem head?_toDigits_ne_zero {n : ℕ} (hpos : 0 < n) : (Nat.toDigits 10 n).head? ≠ some '0' := by
  induction n using Nat.base_induction 10 (by decide) with
  | single n hn =>
      rw [Nat.toDigits_of_lt_base hn]
      simpa using hpos.ne'
  | digit n digit hdigit hn ih =>
      -- another digit is added behind, and the front stays
      rw [← Nat.toDigits_append_toDigits (by decide) hn hdigit,
        List.head?_append_of_ne_nil _ Nat.toDigits_ne_nil]
      exact ih hn

/-- Zeros in front of digits change nothing. -/
theorem ofDigitChars_leftpad (count : ℕ) (digits : List Char) :
    Nat.ofDigitChars 10 (List.leftpad count '0' digits) 0 = Nat.ofDigitChars 10 digits 0 := by
  rw [List.leftpad, Nat.ofDigitChars_append, Nat.ofDigitChars_replicate_zero, Nat.mul_zero]

/-- Zeros behind digits multiply the number by ten each. -/
theorem ofDigitChars_append_replicate (digits : List Char) (count : ℕ) :
    Nat.ofDigitChars 10 (digits ++ List.replicate count '0') 0 =
      Nat.ofDigitChars 10 digits 0 * 10 ^ count := by
  rw [Nat.ofDigitChars_append, Nat.ofDigitChars_replicate_zero, Nat.mul_comm]

theorem ofDigitChars_rightpad (count : ℕ) (digits : List Char) :
    Nat.ofDigitChars 10 (List.rightpad count '0' digits) 0 =
      Nat.ofDigitChars 10 digits 0 * 10 ^ (count - digits.length) :=
  ofDigitChars_append_replicate ..

/-! ### White space -/

variable {text core : List Char}

/-- What is left of a text when the white space at either end is taken away. -/
structure Trimmed (text core : List Char) : Prop where
  surrounded : ∃ before after, text = before ++ core ++ after ∧
    (∀ c ∈ before, isBlank c = true) ∧ ∀ c ∈ after, isBlank c = true
  first : ∀ c ∈ core.head?, isBlank c = false
  last : ∀ c ∈ core.getLast?, isBlank c = false

theorem trimBlankRight_append {after : List Char} (hlast : ∀ c ∈ core.getLast?, isBlank c = false)
    (hafter : ∀ c ∈ after, isBlank c = true) : trimBlankRight (core ++ after) = core := by
  have blanks : ∀ c ∈ after.reverse, isBlank c = true := by simpa using hafter
  rw [trimBlankRight, List.reverse_append, List.dropWhile_append_of_pos blanks]
  cases hcore : core.reverse with
  | nil => simpa using hcore.symm
  | cons c rest =>
      have ends : core.getLast? = some c := by rw [← List.head?_reverse, hcore]; rfl
      rw [List.dropWhile_cons_of_neg (by simp [hlast c ends]), ← hcore, List.reverse_reverse]

/-- Trimming takes white space away at either end, and all of it. -/
theorem trimmed_trimBlank (text : List Char) : Trimmed text (trimBlank text) := by
  set rest := text.dropWhile isBlank with hrest
  have split : trimBlank text ++ rest.rtakeWhile isBlank = rest :=
    List.rdropWhile_append_rtakeWhile ..
  refine ⟨⟨text.takeWhile isBlank, rest.rtakeWhile isBlank, ?_, ?_, ?_⟩, ?_, ?_⟩
  · rw [List.append_assoc, split, List.takeWhile_append_dropWhile]
  · exact fun c hc => List.mem_takeWhile_imp hc
  · exact fun c hc => List.mem_rtakeWhile_imp hc
  · intro c hc
    -- what the trimmed text begins with is the first character after the white space
    have begins : rest.head? = some c := by
      rw [← split, List.head?_append, Option.mem_def.1 hc]
      rfl
    have stops := List.head?_dropWhile_not isBlank text
    rw [← hrest, begins] at stops
    simpa using stops
  · intro c hc
    have nonempty : rest.rdropWhile isBlank ≠ [] := List.ne_nil_of_mem (List.mem_of_getLast? hc)
    have ends := List.rdropWhile_last_not isBlank rest nonempty
    obtain rfl : (rest.rdropWhile isBlank).getLast nonempty = c :=
      Option.some.inj ((List.getLast?_eq_some_getLast nonempty).symm.trans hc)
    simpa using ends

/-- **Trimming finds what is left** of a text without the white space around it. -/
theorem trimBlank_eq_iff : trimBlank text = core ↔ Trimmed text core := by
  constructor
  · rintro rfl
    exact trimmed_trimBlank text
  · rintro ⟨⟨before, after, rfl, hbefore, hafter⟩, hfirst, hlast⟩
    rw [trimBlank, List.append_assoc, List.dropWhile_append_of_pos hbefore]
    cases core with
    | nil =>
        rw [List.nil_append, List.dropWhile_eq_nil_iff.2 hafter]
        rfl
    | cons c core =>
        rw [List.cons_append, List.dropWhile_cons_of_neg (by simp [hfirst c rfl]),
          ← List.cons_append, trimBlankRight_append hlast hafter]

theorem trimmed_self (h : ∀ c ∈ text, isBlank c = false) : Trimmed text text := by
  refine ⟨⟨[], [], by simp, by simp, by simp⟩, ?_, ?_⟩
  · exact fun c hc => h c (List.mem_of_head? hc)
  · exact fun c hc => h c (List.mem_of_getLast? hc)

/-- The printing characters of ASCII are no white space. -/
theorem isBlank_eq_false_of_printing {c : Char} (h : 33 ≤ c.toNat ∧ c.toNat ≤ 126) :
    isBlank c = false := by
  rw [← Bool.not_eq_true, isBlank, inRanges_eq_true_iff]
  rintro ⟨range, member, least, greatest⟩
  simp only [blankRanges, List.mem_cons, List.not_mem_nil, or_false] at member
  rcases member with rfl | rfl | rfl | rfl | rfl | rfl | rfl | rfl | rfl | rfl <;>
    simp only at least greatest <;> omega

theorem trimBlank_trimBlank (text : List Char) : trimBlank (trimBlank text) = trimBlank text :=
  trimBlank_eq_self (trimmed_trimBlank text).first (trimmed_trimBlank text).last

end DeviceProperty
