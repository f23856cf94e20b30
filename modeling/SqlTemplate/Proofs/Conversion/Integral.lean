import SqlTemplate.Conversion.Converter
import SqlTemplate.Proofs.Json.Integer

/-! # Converters of integers

An integer in JSON that 64 bits hold is bound as it is or rejected. Beyond them it is a floating-point number, and the end of the range
on its side stands for it.
-/

namespace SqlTemplate

open Number

namespace Value

/-! ## The integer that a value stands for -/

theorem asInt?_beyond {x : Float} {negative : Bool} {n : Nat} (hn : 2 ^ 63 ≤ n) (hfinite : x.isFinite = true)
    (h : Beyond x.toModel.unpack (signOf negative) 63) : (Value.float x).asInt? = some (clampInt64 (signed negative n)) := by
  obtain ⟨k, hk, hinteger⟩ := integer?_of_beyond h hfinite
  rw [asInt?, hinteger, Option.map_some]
  cases negative
  · simp only [signed, Bool.false_eq_true, if_false]
    rw [clampInt64_of_le (by omega), clampInt64_of_le (by omega)]
  · simp only [signed, if_true]
    rw [clampInt64_of_ge (by omega), clampInt64_of_ge (by omega)]

theorem asInt?_float_ofInt (negative : Bool) {n : Nat} (hlow : 2 ^ 63 ≤ n) (hhigh : n < 2 ^ 64) :
    (Value.float (Number.ofInt (signed negative n))).asInt? = some (clampInt64 (signed negative n)) := by
  have hsigned : Number.ofInt (signed negative n) = withSign negative (ofDecimal n (0 : Nat)) := by
    cases negative
    · rw [signed, if_neg (by decide), Number.ofInt, decide_eq_false (by omega)]
      rfl
    · rw [signed, if_pos rfl, Number.ofInt, decide_eq_true (by omega), Int.natAbs_neg]
      rfl
  have hlog : 63 ≤ (n * 10 ^ 0).log2 := by
    rw [Nat.le_log2 (by omega)]
    omega
  refine asInt?_beyond hlow (isWhole_ofInt (by cases negative <;> simp [signed] <;> omega)).isFinite ?_
  rw [hsigned]
  exact beyond_withSign ((beyond_ofDecimal (by omega) 0).mono (by omega)) negative

theorem asInt?_ofInt (negative : Bool) {n : Nat} (hn : n < 2 ^ 64) :
    (ofInt (signed negative n)).asInt? = some (clampInt64 (signed negative n)) := by
  unfold ofInt
  split
  · rename_i w hw
    rw [asInt?, clampInt64_of_toInt64? hw]
  · rename_i hnone
    refine asInt?_float_ofInt negative ?_ hn
    by_contra hsmall
    rw [toInt64?, Int64.toInt_minValue, Int64.toInt_maxValue, if_pos] at hnone
    · cases hnone
    · cases negative <;> simp [signed] <;> omega

theorem asInt?_ofInteger (negative : Bool) {n : Nat} (hn : n < 2 ^ 64) :
    (ofJson (Json.ofInteger negative n)).asInt? = some (clampInt64 (signed negative n)) := by
  unfold Json.ofInteger
  cases negative
  · exact asInt?_ofInt false hn
  · rw [if_pos rfl]
    split
    · -- The negative zero is a floating-point number.
      rename_i hzero
      subst hzero
      rfl
    · split
      · exact asInt?_ofInt true hn
      · rename_i hbelow
        rw [Int64.toInt_minValue] at hbelow
        exact asInt?_float_ofInt true (by omega) hn

/-- A numeral of an integer is the nearest integer of 64 bits. -/
theorem asInt?_of_readNumber? {rounding : Json.Rounding} {negative : Bool} {n : Nat} {rest rest' : List Char} {j : Json}
    (hrest : Json.EndsNumeral rest)
    (h : Json.readNumber? rounding (Json.integerChars negative n ++ rest) = some (j, rest')) :
    rest' = rest ∧ (ofJson j).asInt? = some (clampInt64 (signed negative n)) := by
  have hsize : UInt64.size = 2 ^ 64 := rfl
  rw [Json.readNumber?_integer rounding negative n hrest] at h
  split at h
  · rename_i hsmall
    cases h
    exact ⟨rfl, asInt?_ofInteger negative (by omega)⟩
  · rename_i hlarge
    obtain ⟨k, hk, hpair⟩ := Option.map_eq_some_iff.1 h
    cases hpair
    unfold Json.finite? at hk
    split at hk
    · rename_i hfinite
      cases hk
      have hbeyond := beyond_withSign (Json.beyond_magnitude rounding (n := n) (by omega)) negative
      exact ⟨rfl, asInt?_beyond (by omega) hfinite hbeyond⟩
    · cases hk

end Value

namespace Converter

/-! ## Range checks -/

theorem toParameter_integer {size : IntegerSize} {v : Value} {w : Int64} (h : v.asInt? = some w) :
    (Converter.integer size).toParameter v = inRange size w := by
  cases v with
  | int n =>
    cases h
    rfl
  | float x | string s => simp [toParameter, Value.isNull, convert, toInteger, h]
  | null | bool b | list items | map entries => cases h

theorem inRange_eq (size : IntegerSize) (w : Int64) :
    inRange size w = if size.holds w.toInt then .ok (.int w) else .error (.outOfRange w size.name) := rfl

theorem range_cases (size : IntegerSize) :
    (size = .long ∧ size.least = -2 ^ 63 ∧ size.greatest = 2 ^ 63 - 1) ∨
      (size ≠ .long ∧ -2 ^ 63 < size.least ∧ size.least ≤ size.greatest ∧ size.greatest < 2 ^ 63 - 1) := by
  cases size <;> decide

/-- Only for the greatest size is the end of the range that stands for an integer beyond 64 bits in the range of the size. -/
theorem holds_clampInt64 (size : IntegerSize) (n : Int) :
    size.holds (clampInt64 n).toInt = true ↔ size.holds n = true ∨ size = .long := by
  simp only [toInt_clampInt64, IntegerSize.holds, Bool.and_eq_true, decide_eq_true_eq]
  rcases range_cases size with ⟨hlong, hleast, hgreatest⟩ | ⟨hshort, hleast, hbetween, hgreatest⟩
  · simp only [hlong, or_true, iff_true]
    rw [hlong] at hleast hgreatest
    omega
  · simp only [hshort, or_false]
    omega

theorem toInt_clampInt64_of_holds {size : IntegerSize} {n : Int} (h : size.holds n = true) : (clampInt64 n).toInt = n := by
  rw [toInt_clampInt64]
  simp only [IntegerSize.holds, Bool.and_eq_true, decide_eq_true_eq] at h
  rcases range_cases size with ⟨-, hleast, hgreatest⟩ | ⟨-, hleast, -, hgreatest⟩ <;> omega

/-! ## Integers in JSON -/

/-- Integers in the range of the size are bound as they are. Others that can be read are rejected, but for the size of 64 bits, which binds
the end of its range for them. -/
theorem toParameter_json_integer (size : IntegerSize) (rounding : Json.Rounding) (limit : Nat) (negative : Bool) (n : Nat)
    {rest : List Char} (hrest : Json.EndsNumeral rest) :
    (size.holds (signed negative n) = true → ∃ j w,
        Json.readValue? rounding (limit + 1) (Json.integerChars negative n ++ rest) = some (j, rest) ∧
          w.toInt = signed negative n ∧ (Converter.integer size).toParameter (.ofJson j) = .ok (.int w)) ∧
      (size.holds (signed negative n) = false → ∀ j rest',
        Json.readValue? rounding (limit + 1) (Json.integerChars negative n ++ rest) = some (j, rest') →
          rest' = rest ∧ (Converter.integer size).toParameter (.ofJson j) =
            if size = .long then .ok (.int (clampInt64 (signed negative n)))
            else .error (.outOfRange (clampInt64 (signed negative n)) size.name)) := by
  rw [Json.readValue?_integer]
  constructor
  · intro hholds
    -- Whatever the size holds is in the range of 64 bits, so that it is read as an integer and not as a double.
    have hsmall : n < UInt64.size := by
      have hword := toInt_clampInt64_of_holds hholds
      rw [toInt_clampInt64] at hword
      have hsize : UInt64.size = 2 ^ 64 := rfl
      cases negative <;> simp only [signed, Bool.false_eq_true, if_false, if_true] at hword <;> omega
    have hread := Json.readNumber?_integer rounding negative n hrest
    rw [if_pos hsmall] at hread
    refine ⟨_, clampInt64 (signed negative n), hread, toInt_clampInt64_of_holds hholds, ?_⟩
    rw [toParameter_integer (Value.asInt?_of_readNumber? hrest hread).2, inRange_eq,
      if_pos ((holds_clampInt64 _ _).2 (.inl hholds))]
  · intro hbeyond j rest' hread
    obtain ⟨hrests, hint⟩ := Value.asInt?_of_readNumber? hrest hread
    have hclamp : size.holds (clampInt64 (signed negative n)).toInt = true ↔ size = .long := by
      rw [holds_clampInt64, hbeyond]
      simp
    refine ⟨hrests, ?_⟩
    rw [toParameter_integer hint, inRange_eq]
    simp only [hclamp]

theorem toParameter_json_integer_byte :
    Json.EndsNumeral [']'] ∧
      (∃ j w, Json.readValue? .twice 128 (Json.integerChars true 128 ++ [']']) = some (j, [']']) ∧
        w.toInt = -128 ∧ (Converter.integer .byte).toParameter (.ofJson j) = .ok (.int w)) ∧
      ∀ j rest', Json.readValue? .twice 128 (Json.integerChars false 128 ++ [']']) = some (j, rest') →
        rest' = [']'] ∧ (Converter.integer .byte).toParameter (.ofJson j) = .error (.outOfRange 128 "byte") := by
  have hends : Json.EndsNumeral [']'] := by simp [Json.EndsNumeral, Json.isExponentMark]
  exact ⟨hends, (toParameter_json_integer .byte .twice 127 true 128 hends).1 (by decide),
    (toParameter_json_integer .byte .twice 127 false 128 hends).2 (by decide)⟩

/-- The least integer above the range of 64 bits is bound as the greatest in it. -/
theorem toParameter_json_above :
    IntegerSize.long.holds 9223372036854775808 = false ∧
      ∃ j, Json.readValue? .twice 128 (Json.integerChars false 9223372036854775808 ++ [']']) = some (j, [']']) ∧
        (Converter.integer .long).toParameter (.ofJson j) = .ok (.int 9223372036854775807) := by
  have hends : Json.EndsNumeral [']'] := by simp [Json.EndsNumeral, Json.isExponentMark]
  have hread := Json.readNumber?_integer .twice false 9223372036854775808 hends
  rw [if_pos (by decide)] at hread
  have hclamp : clampInt64 (signed false 9223372036854775808) = 9223372036854775807 := by decide
  refine ⟨by decide, _, (Json.readValue?_integer _ _ _ _ _).trans hread, ?_⟩
  rw [toParameter_integer (Value.asInt?_of_readNumber? hends hread).2, hclamp]
  rfl

end Converter

end SqlTemplate
