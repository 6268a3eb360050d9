/-
**Sentinels.**

A format declares its sentinels in a list, and the two directions look into it under different keys:
reading finds a code, and writing the first sentinel of a state.  The check of a format keeps two
sentinels from having one code, so every sentinel is read as its state.  It does not keep them from
having one state, and then the later ones are read and not written.

A code is read as a sentinel before it is read as a quantity, so a sentinel among the ordinary codes
hides the quantities that are written as this code: they come back as a special state.  A format
names such sentinels from its numbers alone, as those between the smallest and the largest ordinary
code.  Each of them does hide a quantity, no other one does, and there are none exactly when every
quantity of the domain comes back as a quantity.

Main results:

* `DeviceProperty.Format.Consistent.encode_sentinel_iff` — the code of a sentinel is written exactly
  when no sentinel before it has the same state;
* `DeviceProperty.Format.encode_decode_sentinel` — **sentinels in both directions**;
* `DeviceProperty.Format.Invertible.exists_encode_eq_iff` — a code is ordinary exactly when a
  quantity of the domain is written as this code;
* `DeviceProperty.Format.ambiguousSentinels_iff` — **the ambiguous sentinels are those that hide a
  quantity**.
-/

import Mathlib
import DeviceProperty.Proofs.Format.Ordinary

set_option relaxedAutoImplicit false
set_option autoImplicit false

namespace DeviceProperty

namespace Format

variable {format : Format}

theorem exists_encode_state {sentinel : Sentinel} (h : sentinel ∈ format.sentinels) :
    ∃ code, format.encode (.ofState sentinel.state) = .ok code ∧
      ⟨code, sentinel.state⟩ ∈ format.sentinels := by
  have found : (format.sentinels.find? (·.state = sentinel.state)).isSome = true :=
    List.find?_isSome.2 ⟨sentinel, h, by simp⟩
  obtain ⟨first, hfirst⟩ := Option.isSome_iff_exists.1 found
  have hcode : format.sentinelCode? sentinel.state = some first.code := by
    rw [sentinelCode?, hfirst, Option.map_some]
  exact ⟨first.code, encode_ofState_eq_ok_iff.2 hcode, sentinelCode?_mem hcode⟩

namespace Consistent

/-- The code of a sentinel is written exactly when no sentinel before it has the same state. -/
theorem encode_sentinel_iff (consistent : format.Consistent) {i : ℕ} {sentinel : Sentinel}
    (hi : format.sentinels[i]? = some sentinel) :
    format.encode (.ofState sentinel.state) = .ok sentinel.code ↔
      ∀ j < i, ∀ earlier, format.sentinels[j]? = some earlier →
        earlier.state ≠ sentinel.state := by
  rw [encode_ofState_eq_ok_iff, sentinelCode?, Option.map_eq_some_iff]
  constructor
  · rintro ⟨found, hfound, same⟩ j hj earlier hearlier
    -- a sentinel is the only one with its code, so the one that is found is this one
    have member := List.mem_of_find?_eq_some hfound
    obtain rfl : found = sentinel :=
      List.inj_on_of_nodup_map consistent.sentinel_unique member (List.mem_of_getElem? hi) same
    obtain ⟨-, k, hk, hget, before⟩ := List.find?_eq_some_iff_getElem.1 hfound
    obtain rfl : k = i := by
      have distinct := List.Nodup.of_map _ consistent.sentinel_unique
      exact (List.getElem?_inj hk distinct).1 (by rw [hi, List.getElem?_eq_getElem hk, hget])
    obtain ⟨hlt, rfl⟩ := List.getElem?_eq_some_iff.1 hearlier
    simpa using before j hj
  · intro first
    obtain ⟨hlt, rfl⟩ := List.getElem?_eq_some_iff.1 hi
    refine ⟨_, List.find?_eq_some_iff_getElem.2 ⟨by simp, i, hlt, rfl, ?_⟩, rfl⟩
    intro j hj
    simpa using first j hj _ (List.getElem?_eq_getElem (hj.trans hlt))

/-- The codes of all sentinels are written exactly when no state has two of them. -/
theorem encode_sentinels_iff (consistent : format.Consistent) :
    (∀ sentinel ∈ format.sentinels,
        format.encode (.ofState sentinel.state) = .ok sentinel.code) ↔
      (format.sentinels.map (·.state)).Nodup := by
  constructor
  · intro written
    rw [List.nodup_iff_getElem?_ne_getElem?]
    intro j i hj hi
    rw [List.length_map] at hi
    have own := written _ (List.getElem_mem hi)
    have first := (consistent.encode_sentinel_iff (List.getElem?_eq_getElem hi)).1 own
    have other := first j hj _ (List.getElem?_eq_getElem (hj.trans hi))
    simpa [List.getElem?_eq_getElem hi, List.getElem?_eq_getElem (hj.trans hi)] using other
  · intro unique sentinel h
    exact encode_ofState_eq_ok_iff.2 (sentinelCode?_state unique h)

end Consistent

/-- **Sentinels in both directions.**  In a format that its check passes, the code of a sentinel is
read as its state.  The state is written as a code that is read as the same state, and this is the
code of the sentinel itself exactly when no sentinel before it has the same state.  So all sentinels
come back exactly when no state has two of them, as in the formats of the catalogue. -/
theorem encode_decode_sentinel (format : Format) (faultless : format.tableFaults = []) :
    (∀ (i : ℕ) (sentinel : Sentinel), format.sentinels[i]? = some sentinel →
      format.decode sentinel.code = .ok (.ofState sentinel.state) ∧
        (∃ code, format.encode (.ofState sentinel.state) = .ok code ∧
          format.decode code = .ok (.ofState sentinel.state)) ∧
        (format.encode (.ofState sentinel.state) = .ok sentinel.code ↔
          ∀ j < i, ∀ earlier, format.sentinels[j]? = some earlier →
            earlier.state ≠ sentinel.state)) ∧
      ((∀ sentinel ∈ format.sentinels,
          format.encode (.ofState sentinel.state) = .ok sentinel.code) ↔
        (format.sentinels.map (·.state)).Nodup) ∧
      (format ∈ catalogue → ∀ sentinel ∈ format.sentinels,
        format.encode (.ofState sentinel.state) = .ok sentinel.code) := by
  have consistent := tableFaults_eq_nil_iff.1 faultless
  refine ⟨?_, consistent.encode_sentinels_iff, ?_⟩
  · intro i sentinel hi
    have member := List.mem_of_getElem? hi
    obtain ⟨code, written, declared⟩ := exists_encode_state member
    exact ⟨consistent.decode_sentinel member, ⟨code, written, consistent.decode_sentinel declared⟩,
      consistent.encode_sentinel_iff hi⟩
  · intro known
    exact consistent.encode_sentinels_iff.2 (lossless_of_mem_catalogue known).state_unique

/-- The code of a sentinel that lies in the domain comes back all the same. -/
theorem encode_decode_sentinel_chromatic_distance :
    chromaticDistance.tableFaults = [] ∧
      chromaticDistance.minCode ≤ -1 ∧ -1 ≤ chromaticDistance.maxCode ∧
      chromaticDistance.decode (-1) = .ok .unknown ∧
      chromaticDistance.encode .unknown = .ok (-1) := by
  have faultless : chromaticDistance.tableFaults = [] := by decide
  obtain ⟨sentinels, -, -⟩ := encode_decode_sentinel chromaticDistance faultless
  obtain ⟨read, -, written⟩ := sentinels 0 ⟨-1, .unknown⟩ rfl
  refine ⟨faultless, by decide, by decide, read, written.2 ?_⟩
  intro j hj
  exact absurd hj (Nat.not_lt_zero j)

/-- Codes up to 200, and two codes for an unknown value. -/
def twoUnknowns : Format :=
  { plain "two_unknowns" (.unsigned 8) with
    maxCode := 200
    sentinels := [⟨254, .unknown⟩, ⟨255, .unknown⟩] }

/-- The check lets two sentinels of one state pass, and the second one does not come back: its code
is read as unknown, and unknown is written as the code of the first one. -/
theorem not_forall_encode_sentinel :
    ¬ (∀ format : Format, format.tableFaults = [] → ∀ sentinel ∈ format.sentinels,
        format.decode sentinel.code = .ok (.ofState sentinel.state) ∧
          format.encode (.ofState sentinel.state) = .ok sentinel.code) ∧
      twoUnknowns.tableFaults = [] ∧ twoUnknowns.decode 255 = .ok .unknown ∧
      twoUnknowns.encode .unknown = .ok 254 := by
  have faultless : twoUnknowns.tableFaults = [] := by decide
  have written : twoUnknowns.encode .unknown = .ok 254 := by rfl
  refine ⟨?_, faultless, by rfl, written⟩
  intro all
  have own := (all twoUnknowns faultless ⟨255, .unknown⟩ (by decide)).2
  cases written.symm.trans own

/-! ### Sentinels that hide a quantity -/

theorem mem_ambiguousSentinels_iff {sentinel : Sentinel} :
    sentinel ∈ format.ambiguousSentinels ↔
      sentinel ∈ format.sentinels ∧ format.isDomainCode sentinel.code = true :=
  List.mem_filter

/-- A code is ordinary exactly when a quantity of the domain is written as this code.  The quantity
of the code itself is one. -/
theorem Invertible.exists_encode_eq_iff (invertible : format.Invertible)
    (consistent : format.Consistent) {code : ℤ} :
    (∃ quantity, format.inDomain quantity = true ∧
        format.encode (.normal quantity) = .ok code) ↔ format.isDomainCode code = true := by
  constructor
  · rintro ⟨quantity, hdomain, encoded⟩
    exact (consistent.isDomainCode_of_encode hdomain encoded).1
  · intro ordinary
    obtain ⟨quantity, hquantity, hdomain⟩ := invertible.exists_quantity ordinary
    have small := consistent.fits64_of_isDomainCode ordinary
    have back := invertible.codeOfQuantity?_eq small ordinary hquantity
    have unmoved := clampCode_eq_self ordinary
    exact ⟨quantity, hdomain, (encode_inDomain_eq_ok_iff hdomain).2 ⟨code, back, unmoved⟩⟩

/-- A quantity of the domain comes back as a quantity exactly when its code is no ambiguous
sentinel. -/
theorem Consistent.exists_decode_normal_iff (consistent : format.Consistent) {quantity : Quantity}
    {code : ℤ} (hdomain : format.inDomain quantity = true)
    (encoded : format.encode (.normal quantity) = .ok code) :
    (∃ value, format.decode code = .ok (.normal value)) ↔
      ∀ sentinel ∈ format.ambiguousSentinels, sentinel.code ≠ code := by
  constructor
  · rintro ⟨value, read⟩ sentinel ambiguous rfl
    have hidden := consistent.decode_sentinel (mem_ambiguousSentinels_iff.1 ambiguous).1
    exact Reading.ofState_ne_normal _ _ (Except.ok.inj (hidden.symm.trans read))
  · intro distinct
    rcases consistent.decode_of_encode_inDomain hdomain encoded with
      read | ⟨sentinel, member, same, -⟩
    · exact read
    · -- the sentinel has the code of a quantity, which is ordinary
      have ordinary := (consistent.isDomainCode_of_encode hdomain encoded).1
      have ambiguous := mem_ambiguousSentinels_iff.2 ⟨member, same ▸ ordinary⟩
      exact absurd same (distinct sentinel ambiguous)

/-- There are no ambiguous sentinels exactly when every quantity of the domain comes back as a
quantity. -/
theorem Invertible.ambiguousSentinels_eq_nil_iff (invertible : format.Invertible)
    (consistent : format.Consistent) :
    format.ambiguousSentinels = [] ↔
      ∀ quantity, format.inDomain quantity = true → ∃ code value,
        format.encode (.normal quantity) = .ok code ∧
          format.decode code = .ok (.normal value) := by
  rw [List.eq_nil_iff_forall_not_mem]
  constructor
  · intro unambiguous quantity hdomain
    obtain ⟨code, encoded⟩ := invertible.exists_encode consistent hdomain
    have distinct : ∀ sentinel ∈ format.ambiguousSentinels, sentinel.code ≠ code := by
      intro sentinel ambiguous
      exact absurd ambiguous (unambiguous sentinel)
    obtain ⟨value, read⟩ := (consistent.exists_decode_normal_iff hdomain encoded).2 distinct
    exact ⟨code, value, encoded, read⟩
  · intro returns sentinel ambiguous
    -- the quantity that the sentinel hides would come back as a quantity
    have ordinary := (mem_ambiguousSentinels_iff.1 ambiguous).2
    obtain ⟨quantity, hdomain, hidden⟩ := (invertible.exists_encode_eq_iff consistent).2 ordinary
    obtain ⟨code, value, encoded, read⟩ := returns quantity hdomain
    obtain rfl := Except.ok.inj (hidden.symm.trans encoded)
    have distinct := (consistent.exists_decode_normal_iff hdomain encoded).1 ⟨value, read⟩
    exact distinct sentinel ambiguous rfl

/-- **The ambiguous sentinels are those that hide a quantity.**  Where a step is at least a
millionth and the scaled bounds stay inside the arithmetic, a sentinel is ambiguous exactly when a
quantity of the domain is written as its code, and there are no ambiguous sentinels exactly when
every quantity of the domain is written and comes back as a quantity. -/
theorem ambiguousSentinels_iff (faultless : format.tableFaults = [])
    (words : format.multiplier.Fits32) (coarse : 1 ≤ format.step)
    (room : ∀ bound ∈ [format.minCode, format.maxCode],
      (|bound| + 1) * (format.scale.num + format.scale.den) < 2 ^ 127 ∧
        ∃ quantity, format.quantityOfCode bound = .ok quantity) :
    (∀ sentinel, sentinel ∈ format.ambiguousSentinels ↔
        sentinel ∈ format.sentinels ∧ ∃ quantity, format.inDomain quantity = true ∧
          format.encode (.normal quantity) = .ok sentinel.code) ∧
      (format.ambiguousSentinels = [] ↔
        ∀ quantity, format.inDomain quantity = true → ∃ code value,
          format.encode (.normal quantity) = .ok code ∧
            format.decode code = .ok (.normal value)) := by
  have consistent := tableFaults_eq_nil_iff.1 faultless
  have separated := (consistent.num_le_den_iff words).2 coarse
  have invertible := invertible_iff.2 ⟨separated, room⟩
  constructor
  · intro sentinel
    rw [mem_ambiguousSentinels_iff, invertible.exists_encode_eq_iff consistent]
  · exact invertible.ambiguousSentinels_eq_nil_iff consistent

/-- The unknown value of a distance hides the quantities that are written as one step below zero.
The unknown value of a percentage is beyond the ordinary codes, and every quantity comes back. -/
theorem ambiguousSentinels_iff_distance_percentage :
    (chromaticDistance.tableFaults = [] ∧ chromaticDistance.multiplier.Fits32 ∧
        1 ≤ chromaticDistance.step ∧
        (∃ quantity, chromaticDistance.inDomain quantity = true ∧
          chromaticDistance.encode (.normal quantity) = .ok (-1)) ∧
        ¬ ∀ quantity, chromaticDistance.inDomain quantity = true → ∃ code value,
          chromaticDistance.encode (.normal quantity) = .ok code ∧
            chromaticDistance.decode code = .ok (.normal value)) ∧
      percentage8.tableFaults = [] ∧ percentage8.multiplier.Fits32 ∧ 1 ≤ percentage8.step ∧
        ∀ quantity, percentage8.inDomain quantity = true → ∃ code value,
          percentage8.encode (.normal quantity) = .ok code ∧
            percentage8.decode code = .ok (.normal value) := by
  constructor
  · have member : chromaticDistance ∈ catalogue := by decide
    have faultless : chromaticDistance.tableFaults = [] := by decide
    have words := fits32_of_mem_catalogue member
    have coarse := one_le_step_of_mem_catalogue member
    have room := (invertible_iff.1 (lossless_of_mem_catalogue member).invertible).2
    obtain ⟨hides, returns⟩ := ambiguousSentinels_iff faultless words coarse room
    refine ⟨faultless, words, coarse, ?_, ?_⟩
    · exact ((hides ⟨-1, .unknown⟩).1 (by decide)).2
    · intro all
      exact absurd (returns.2 all) (by decide)
  · have member : percentage8 ∈ catalogue := by decide
    have faultless : percentage8.tableFaults = [] := by decide
    have words := fits32_of_mem_catalogue member
    have coarse := one_le_step_of_mem_catalogue member
    have room := (invertible_iff.1 (lossless_of_mem_catalogue member).invertible).2
    obtain ⟨-, returns⟩ := ambiguousSentinels_iff faultless words coarse room
    exact ⟨faultless, words, coarse, returns.1 (by decide)⟩

end Format

end DeviceProperty
