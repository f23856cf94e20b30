import SqlTemplate.Proofs.Computation
import SqlTemplate.Proofs.Conversion.Named
import SqlTemplate.Proofs.Number.Grammar

/-! # What converters bind

Each converter binds values of one form, and null for null. Only the decimal converter binds texts of another form: it checks a text
with the reader of floating-point numbers, which takes words for infinity and bare points too.
-/

namespace SqlTemplate.Converter

open SqlTemplate.Computation Text
open Number (IsNumeral IsLoose isNumeral_iff isNumeral_intText isNumeral_plain)

/-- An integer that a byte holds. -/
def IsByte (v : Value) : Prop := ∃ n : Int64, v = .int n ∧ 0 ≤ n.toInt ∧ n.toInt ≤ 255

/-- The values that the converter is to bind, besides null. -/
def Represents (c : Converter) (p : Value) : Prop :=
  match c with
  | .object => True
  | .boolean => ∃ b, p = .bool b
  | .integer size => ∃ n : Int64, p = .int n ∧ size.holds n.toInt
  | .float _ => ∃ x, p = .float x
  | .decimal => ∃ cs, p = .string (.ofList cs) ∧ IsNumeral cs
  | .text _ => ∃ s, p = .string s
  | .bytes _ => ∃ items, p = .list items ∧ ∀ b ∈ items, IsByte b
  | .temporal _ => ∃ s, p = .string s
  | .array => ∃ items, p = .list items
  | .enumeration .name e => ∃ variant ∈ e.variants, p = .string variant
  | .enumeration .ordinal e => ∃ n : Int64, p = .int n ∧ 0 ≤ n.toInt ∧ n.toInt < e.variants.length

variable {c : Converter} {v p : Value}

/-! ## What each of them binds -/

theorem toBool_represented (h : toBool v = .ok p) : Converter.boolean.Represents p := by
  unfold toBool at h
  split at h
  · cases h
    exact ⟨_, rfl⟩
  · cases h
    exact ⟨_, rfl⟩
  · split at h
    · cases h
      exact ⟨_, rfl⟩
    · cases h
  · cases h

theorem inRange_represented {size : IntegerSize} {n : Int64} (h : inRange size n = .ok p) : (Converter.integer size).Represents p := by
  unfold inRange at h
  split at h
  · rename_i hholds
    cases h
    exact ⟨n, rfl, hholds⟩
  · cases h

theorem toInteger_represented {size : IntegerSize} (h : toInteger size v = .ok p) : (Converter.integer size).Represents p := by
  unfold toInteger at h
  split at h
  · exact inRange_represented h
  · split at h
    · exact inRange_represented h
    · cases h

theorem toFloat_represented {size : FloatSize} (h : toFloat size v = .ok p) : (Converter.float size).Represents p := by
  unfold toFloat at h
  split at h
  · cases h
    exact ⟨_, rfl⟩
  · cases h

theorem represents_decimal_iff {cs : List Char} : Converter.decimal.Represents (.string (.ofList cs)) ↔ IsNumeral cs := by
  constructor
  · rintro ⟨cs', heq, hnumeral⟩
    rwa [String.ofList_injective (Value.string.inj heq)]
  · exact fun hnumeral => ⟨cs, rfl, hnumeral⟩

/-- Numbers are bound as numerals, and texts that are read as numbers as they are. -/
theorem toDecimal_represented (h : toDecimal v = .ok p) :
    p = .null ∨ Converter.decimal.Represents p ↔ ∀ s, v = .string s → ¬ IsLoose (trim s.toList) := by
  unfold toDecimal at h
  split at h
  · cases h
    exact iff_of_true (.inr (represents_decimal_iff.2 (isNumeral_intText _))) (by simp)
  · split at h
    · rename_i hfinite
      cases h
      exact iff_of_true (.inr (represents_decimal_iff.2 (isNumeral_plain hfinite))) (by simp)
    · cases h
  · dsimp only at h
    split at h
    · rename_i hread
      cases h
      simp [represents_decimal_iff, isNumeral_iff hread]
    · cases h
  · cases h

theorem toText_represented {kind : TextKind} (h : toText kind v = .ok p) : (Converter.text kind).Represents p := by
  unfold toText at h
  split at h
  · cases h
    exact ⟨_, rfl⟩
  · cases h

theorem toByte_isByte {kind : BytesKind} (h : toByte kind v = .ok p) : IsByte p := by
  unfold toByte at h
  split at h
  · rename_i n hn
    split at h
    · rename_i hrange
      cases h
      exact ⟨n, rfl, hrange⟩
    · cases h
  · cases h

theorem toByteItems_isByte {kind : BytesKind} {items bytes : List Value} (h : toByteItems kind items = .ok bytes) :
    ∀ b ∈ bytes, IsByte b := by
  induction items generalizing bytes with
  | nil =>
    cases h
    simp
  | cons v items ih =>
    obtain ⟨b, hb, h⟩ := except_bind_ok.1 h
    obtain ⟨bs, hbs, h⟩ := except_bind_ok.1 h
    cases h
    exact List.forall_mem_cons.2 ⟨toByte_isByte hb, ih hbs⟩

theorem isByte_ofNat (b : UInt8) : IsByte (.ofNat b.toNat) := by
  have hbyte := b.toNat_lt
  refine ⟨_, rfl, ?_⟩
  rw [Int64.toInt_ofNat_of_lt (by omega)]
  omega

theorem toBytes_represented {kind : BytesKind} (h : toBytes kind v = .ok p) : (Converter.bytes kind).Represents p := by
  unfold toBytes at h
  split at h
  · cases h
    refine ⟨_, rfl, fun b hb => ?_⟩
    obtain ⟨byte, -, rfl⟩ := List.mem_map.1 hb
    exact isByte_ofNat byte
  · obtain ⟨bytes, hbytes, h⟩ := except_map_ok.1 h
    cases h
    exact ⟨bytes, rfl, toByteItems_isByte hbytes⟩
  · cases h

theorem toTemporal_represented {kind : TemporalKind} (h : toTemporal kind v = .ok p) : (Converter.temporal kind).Represents p := by
  unfold toTemporal at h
  split at h
  · cases h
    exact ⟨_, rfl⟩
  · cases h

theorem toArray_represented (h : toArray v = .ok p) : Converter.array.Represents p := by
  unfold toArray at h
  split at h
  · cases h
    exact ⟨_, rfl⟩
  · cases h

theorem enumeration_represented {style : EnumStyle} {e : EnumType} (hsize : style = .ordinal → e.variants.length ≤ 2 ^ 63)
    (h : (Converter.enumeration style e).toParameter v = .ok p) : p = .null ∨ (Converter.enumeration style e).Represents p := by
  rcases (enumeration_serves style e v p).1 h with ⟨-, rfl⟩ | ⟨variant, rfl, hbinds⟩
  · exact .inl rfl
  · refine .inr ?_
    cases style with
    | name => exact ⟨variant, hbinds⟩
    | ordinal =>
      obtain ⟨n, hfirst, rfl⟩ := hbinds
      have hlength := (List.getElem?_eq_some_iff.1 hfirst.1).1
      have hsize := hsize rfl
      have hword : (Int64.ofNat n).toInt = n := Int64.toInt_ofNat_of_lt (by omega)
      exact ⟨_, rfl, by omega, by omega⟩

/-! ## All converters -/

/-- All values that are bound are of the form that the converter is to bind, but for texts that the decimal converter takes for numbers
and that are no numerals. A list in memory has no more than `2 ^ 63` items. -/
theorem represented_iff (hsize : ∀ e, c = .enumeration .ordinal e → e.variants.length ≤ 2 ^ 63) (h : c.toParameter v = .ok p) :
    p = .null ∨ c.Represents p ↔ ∀ s, c = .decimal → v = .string s → ¬ IsLoose (trim s.toList) := by
  have hform (hc : c ≠ .decimal) (hp : p = .null ∨ c.Represents p) :
      p = .null ∨ c.Represents p ↔ ∀ s, c = .decimal → v = .string s → ¬ IsLoose (trim s.toList) :=
    iff_of_true hp fun _ hdecimal => absurd hdecimal hc
  have hconvert : v = .null ∧ p = .null ∨ c.convert v = .ok p := by
    unfold toParameter at h
    split at h
    · rename_i hnull
      cases h
      cases v with
      | null => exact .inl ⟨rfl, rfl⟩
      | _ => cases hnull
    · exact .inr h
  rcases hconvert with ⟨rfl, rfl⟩ | hconvert
  · exact iff_of_true (.inl rfl) (by simp)
  cases c <;> simp only [convert] at hconvert
  case decimal => simpa using toDecimal_represented hconvert
  case object => exact hform (by simp) (.inr trivial)
  case boolean => exact hform (by simp) (.inr (toBool_represented hconvert))
  case integer => exact hform (by simp) (.inr (toInteger_represented hconvert))
  case float => exact hform (by simp) (.inr (toFloat_represented hconvert))
  case text => exact hform (by simp) (.inr (toText_represented hconvert))
  case bytes => exact hform (by simp) (.inr (toBytes_represented hconvert))
  case temporal => exact hform (by simp) (.inr (toTemporal_represented hconvert))
  case array => exact hform (by simp) (.inr (toArray_represented hconvert))
  case enumeration style e => exact hform (by simp) (enumeration_represented (by rintro rfl; exact hsize e rfl) h)

/-- A number with a sign, a fraction and an exponent is bound without the blanks around it. -/
theorem represented_signed :
    Converter.decimal.toParameter (.string " -1.50E+3 ") = .ok (.string "-1.50E+3") ∧
      Converter.decimal.Represents (.string "-1.50E+3") := by
  have hbound : Converter.decimal.toParameter (.string " -1.50E+3 ") = .ok (.string "-1.50E+3") := rfl
  have hnumeral : IsNumeral "-1.50E+3".toList :=
    ⟨['-'], ['1'] ++ '.' :: ['5', '0'], 'E' :: (['+'] ++ ['3']), .minus, .fraction rfl rfl, .marked (.inr rfl) .plus rfl, rfl⟩
  refine ⟨hbound, ((represented_iff (by simp) hbound).2 ?_).resolve_left (by simp)⟩
  rintro s - heq
  cases heq
  exact (isNumeral_iff rfl).1 hnumeral

/-- The word for infinity is bound as it is. -/
theorem infinity_bound : Converter.decimal.toParameter (.string "inf") = .ok (.string "inf") ∧
    ¬ (Value.string "inf" = .null ∨ Converter.decimal.Represents (.string "inf")) := by
  refine ⟨rfl, ?_⟩
  rintro (hnull | hform)
  · cases hnull
  · exact (represents_decimal_iff.1 hform).not_isWord ⟨[], "inf".toList, .none, by decide, rfl⟩

end SqlTemplate.Converter
