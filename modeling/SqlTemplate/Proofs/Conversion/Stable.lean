import SqlTemplate.Proofs.Conversion.Represented

/-! # A trip through the database

What is bound for a value is what the column gives back, for all converters but those of positions of variants, and converting it again
leaves it as it is. A position gives the variant, which is bound as the same position.
-/

namespace SqlTemplate

open SqlTemplate.Computation Text

namespace Converter

variable {v p : Value}

/-! ## What conversions leave as it is -/

theorem toBool_fixed (h : toBool v = .ok p) : toBool p = .ok p := by
  obtain ⟨b, rfl⟩ := toBool_represented h
  rfl

theorem toInteger_fixed {size : IntegerSize} (h : toInteger size v = .ok p) : toInteger size p = .ok p := by
  obtain ⟨n, rfl, hholds⟩ := toInteger_represented h
  exact if_pos hholds

theorem toFloat_fixed {size : FloatSize} (h : toFloat size v = .ok p) : toFloat size p = .ok p := by
  obtain ⟨x, rfl⟩ := toFloat_represented h
  rfl

/-- Without blanks around it, the text of a number is what it is bound as. -/
theorem toDecimal_text {cs : List Char} (htrim : trim cs = cs) (hread : (Number.readFloat? cs).isSome = true) :
    toDecimal (.string (.ofList cs)) = .ok (.string (.ofList cs)) := by
  simp only [toDecimal, String.toList_ofList, htrim, hread, if_true]

theorem toDecimal_fixed (h : toDecimal v = .ok p) : toDecimal p = .ok p := by
  unfold toDecimal at h
  split at h
  · cases h
    exact toDecimal_text (Number.trim_intText _) (by rw [Number.readFloat?_intText]; rfl)
  · split at h
    · rename_i hfinite
      cases h
      exact toDecimal_text (Number.trim_plain hfinite) (Number.readFloat?_plain hfinite)
    · cases h
  · dsimp only at h
    split at h
    · rename_i hread
      cases h
      exact toDecimal_text (trim_trim _) hread
    · cases h
  · cases h

theorem toText_fixed {kind : TextKind} (h : toText kind v = .ok p) : toText kind p = .ok p := by
  obtain ⟨s, rfl⟩ := toText_represented h
  rfl

theorem toByte_fixed (kind : BytesKind) (h : IsByte v) : toByte kind v = .ok v := by
  obtain ⟨n, rfl, hrange⟩ := h
  exact if_pos hrange

theorem toByteItems_fixed (kind : BytesKind) {items : List Value} (h : ∀ b ∈ items, IsByte b) :
    toByteItems kind items = .ok items := by
  induction items with
  | nil => rfl
  | cons b items ih =>
    rw [List.forall_mem_cons] at h
    rw [toByteItems, toByte_fixed kind h.1, ih h.2]
    rfl

theorem toBytes_fixed {kind : BytesKind} (h : toBytes kind v = .ok p) : toBytes kind p = .ok p := by
  obtain ⟨bytes, rfl, hbytes⟩ := toBytes_represented h
  rw [toBytes, toByteItems_fixed kind hbytes]
  rfl

theorem toArray_fixed (h : toArray v = .ok p) : toArray p = .ok p := by
  obtain ⟨items, rfl⟩ := toArray_represented h
  rfl

theorem toVariant_fixed {e : EnumType} (h : toVariant e v = .ok p) : toVariant e p = .ok p := by
  unfold toVariant at h
  split at h
  · split at h
    · rename_i hsome
      cases h
      exact if_pos hsome
    · cases h
  · cases h

/-! ## The trip -/

theorem convert_fixed {c : Converter} (htemporal : ∀ kind, c ≠ .temporal kind) (hordinal : ∀ e, c ≠ .enumeration .ordinal e)
    (h : c.convert v = .ok p) : c.convert p = .ok p := by
  cases c <;> simp only [convert] at h ⊢
  case boolean => exact toBool_fixed h
  case integer => exact toInteger_fixed h
  case float => exact toFloat_fixed h
  case decimal => exact toDecimal_fixed h
  case text => exact toText_fixed h
  case bytes => exact toBytes_fixed h
  case temporal kind => exact absurd rfl (htemporal kind)
  case array => exact toArray_fixed h
  case enumeration style e =>
    cases style with
    | name => exact toVariant_fixed h
    | ordinal => exact absurd rfl (hordinal e)

theorem toParameter_fixed {c : Converter} (htemporal : ∀ kind, c ≠ .temporal kind) (hordinal : ∀ e, c ≠ .enumeration .ordinal e)
    (h : c.toParameter v = .ok p) : c.toParameter p = .ok p := by
  unfold toParameter at h
  split at h
  · cases h
    rfl
  · have hfixed := convert_fixed htemporal hordinal h
    unfold toParameter
    split
    · rename_i hnull
      cases p <;> first | rfl | cases hnull
    · exact hfixed

theorem ofColumn_eq {c : Converter} (hordinal : ∀ e, c ≠ .enumeration .ordinal e) : c.ofColumn v = c.toParameter v := by
  unfold ofColumn
  split
  · rename_i e
    exact absurd rfl (hordinal e)
  · rfl

theorem ofOrdinal_firstAt {e : EnumType} {variant : String} {n : Nat} (h : e.FirstAt variant n) (hn : n < 2 ^ 63) :
    ofOrdinal e (.ofNat n) = .ok (.string variant) := by
  have hword : (Int64.ofNat n).toInt = n := Int64.toInt_ofNat_of_lt hn
  rw [ofOrdinal, Value.ofNat, Value.asInt?, Option.bind_some, hword, if_pos (by omega), Int.toNat_natCast, h.1]

theorem ordinal_trip {e : EnumType} {variant : String} (hsize : e.variants.length ≤ 2 ^ 63) (h : variant ∈ e.variants) :
    ∃ p, (Converter.enumeration .ordinal e).toParameter (.string variant) = .ok p ∧
      (Converter.enumeration .ordinal e).ofColumn p = .ok (.string variant) := by
  obtain ⟨n, hn⟩ := Option.isSome_iff_exists.1 (List.isSome_idxOf?.2 h)
  have hfirst := EnumType.ordinal?_eq_some_iff.1 hn
  have hlength := (List.getElem?_eq_some_iff.1 hfirst.1).1
  refine ⟨.ofNat n, ?_, ofOrdinal_firstAt hfirst (by omega)⟩
  exact (enumeration_serves .ordinal e _ _).2 (.inr ⟨variant, rfl, n, hfirst, rfl⟩)

/-- What is bound gives a value in a column that is bound as the same again, and the column of a position gives the variant. A list in
memory has no more than `2 ^ 63` items. -/
theorem stable {c : Converter} (hc : ∀ kind, c ≠ .temporal kind)
    (hsize : ∀ e, c = .enumeration .ordinal e → e.variants.length ≤ 2 ^ 63) :
    (∀ v p, c.toParameter v = .ok p → ∃ w, c.ofColumn p = .ok w ∧ c.toParameter w = .ok p) ∧
      ∀ e, c = .enumeration .ordinal e → ∀ variant ∈ e.variants,
        ∃ p, c.toParameter (.string variant) = .ok p ∧ c.ofColumn p = .ok (.string variant) := by
  constructor
  · intro v p h
    by_cases hordinal : ∃ e, c = .enumeration .ordinal e
    · obtain ⟨e, rfl⟩ := hordinal
      rcases (enumeration_serves .ordinal e v p).1 h with ⟨rfl, rfl⟩ | ⟨variant, rfl, n, hfirst, rfl⟩
      · exact ⟨.null, rfl, rfl⟩
      · obtain ⟨q, hq, hcolumn⟩ := ordinal_trip (hsize e rfl) (List.mem_of_getElem? hfirst.1)
        rw [hq] at h
        cases h
        exact ⟨.string variant, hcolumn, hq⟩
    · rw [not_exists] at hordinal
      have hfixed := toParameter_fixed hc hordinal h
      exact ⟨p, (ofColumn_eq hordinal).trans hfixed, hfixed⟩
  · rintro e rfl variant hvariant
    exact ordinal_trip (hsize e rfl) hvariant

/-- The second of two variants of one name is bound as the position of the first, which gives its name again. -/
theorem stable_duplicate :
    (∀ kind, Converter.enumeration .ordinal ⟨"Level", ["LOW", "LOW"]⟩ ≠ .temporal kind) ∧
      (∃ w, (Converter.enumeration .ordinal ⟨"Level", ["LOW", "LOW"]⟩).ofColumn (.int 0) = .ok w ∧
        (Converter.enumeration .ordinal ⟨"Level", ["LOW", "LOW"]⟩).toParameter w = .ok (.int 0)) ∧
      ∃ p, (Converter.enumeration .ordinal ⟨"Level", ["LOW", "LOW"]⟩).toParameter (.string "LOW") = .ok p ∧
        (Converter.enumeration .ordinal ⟨"Level", ["LOW", "LOW"]⟩).ofColumn p = .ok (.string "LOW") := by
  have hnot : ∀ kind, Converter.enumeration .ordinal ⟨"Level", ["LOW", "LOW"]⟩ ≠ .temporal kind := by simp
  have hsize : ∀ e, Converter.enumeration .ordinal ⟨"Level", ["LOW", "LOW"]⟩ = .enumeration .ordinal e →
      e.variants.length ≤ 2 ^ 63 := by
    intro e he
    rw [← (Converter.enumeration.inj he).2]
    simp
  exact ⟨hnot, (stable hnot hsize).1 (.string "LOW") (.int 0) rfl, (stable hnot hsize).2 _ rfl "LOW" (by decide)⟩

end Converter

end SqlTemplate
