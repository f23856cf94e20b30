import SqlTemplate.Json.Reader
import SqlTemplate.Proofs.Expr.RoundTrip
import SqlTemplate.Proofs.Number.Whole
import SqlTemplate.Proofs.Text.Reading

/-! # Integers in JSON

An integer of any length can stand in JSON. As an integer of a value it is the same as long as 64 bits hold it, and beyond that the end
of the range on its side.
-/

namespace SqlTemplate

open Number Text

/-! ## Texts of integers -/

/-- The integer of a sign and a size. -/
def signed (negative : Bool) (n : Nat) : Int := if negative then -(n : Int) else n

namespace Json

/-- How JSON writes an integer. Zero may have a sign. -/
def integerChars (negative : Bool) (n : Nat) : List Char := (if negative then ['-'] else []) ++ Nat.toDigits 10 n

/-- The text does not go on with a numeral. -/
def EndsNumeral (rest : List Char) : Prop := ∀ c ∈ rest.head?, c.isDigit = false ∧ c ≠ '.' ∧ isExponentMark c = false

theorem head?_toDigits {n : Nat} (hn : 0 < n) : (Nat.toDigits 10 n).head? ≠ some '0' := by
  have hdigit : ∀ k < 10, 0 < k → [k.digitChar].head? ≠ some '0' := by decide
  induction n using Nat.strongRecOn with
  | ind n ih =>
    by_cases hsmall : n < 10
    · rw [Nat.toDigits_of_lt_base hsmall]
      exact hdigit n hsmall hn
    · rw [Nat.toDigits_of_base_le (by decide) (by omega), List.head?_append_of_ne_nil _ Nat.toDigits_ne_nil]
      exact ih (n / 10) (by omega) (by omega)

theorem takeFraction?_ends {rest : List Char} (h : EndsNumeral rest) : takeFraction? rest = some (none, rest) := by
  cases rest with
  | nil => rfl
  | cons c rest =>
    have hc := (h c rfl).2.1
    unfold takeFraction?
    split
    · rename_i heq
      cases heq
      exact absurd rfl hc
    · rfl

theorem takeExponent?_ends {rest : List Char} (h : EndsNumeral rest) : takeExponent? rest = some (none, rest) := by
  cases rest with
  | nil => rfl
  | cons c rest => rw [takeExponent?, (h c rfl).2.2]; rfl

/-- What an integer is read as: an integer where 64 bits hold its size, and a floating-point number otherwise. -/
theorem readNumber?_integer (rounding : Rounding) (negative : Bool) (n : Nat) {rest : List Char} (hrest : EndsNumeral rest) :
    readNumber? rounding (integerChars negative n ++ rest) =
      if n < UInt64.size then some (ofInteger negative n, rest)
      else (finite? (withSign negative (rounding.magnitude (Nat.toDigits 10 n) [] 0))).map fun j => (j, rest) := by
  have hend : ∀ c ∈ rest.head?, c.isDigit = false := fun c hc => (hrest c hc).1
  obtain ⟨htake, hdrop⟩ := run_split (isDigit_toDigits n) hend
  have hzeros : (decide (1 < (Nat.toDigits 10 n).length) && (Nat.toDigits 10 n).head? == some '0') = false := by
    rcases Nat.eq_zero_or_pos n with rfl | hpos
    · rfl
    · simp [head?_toDigits hpos]
  have hunsigned (cs : List Char) : Nat.toDigits 10 n ++ rest ≠ '-' :: cs := by
    obtain ⟨c, ds, hdigits, hc⟩ := Expr.exists_toDigits n
    rw [hdigits]
    rintro ⟨⟩
    cases hc
  cases negative
  · rw [integerChars, if_neg (by decide), List.nil_append, readNumber?]
    · simp [htake, hdrop, readDigits?_toDigits, hzeros, takeFraction?_ends hrest, takeExponent?_ends hrest,
        Option.map_eq_bind]
    · exact hunsigned
  · rw [integerChars, if_pos rfl, List.singleton_append, List.cons_append, readNumber?]
    simp [htake, hdrop, readDigits?_toDigits, hzeros, takeFraction?_ends hrest, takeExponent?_ends hrest,
      Option.map_eq_bind]

/-- A value that begins with a sign or a digit is a number. -/
theorem readValue?_integer (rounding : Rounding) (limit : Nat) (negative : Bool) (n : Nat) (rest : List Char) :
    readValue? rounding (limit + 1) (integerChars negative n ++ rest) = readNumber? rounding (integerChars negative n ++ rest) := by
  have hhead : ∃ c cs, integerChars negative n = c :: cs ∧ (c = '-' ∨ c.isDigit = true) := by
    obtain ⟨c, cs, hdigits, hc⟩ := Expr.exists_toDigits n
    cases negative
    · exact ⟨c, cs, hdigits, .inr hc⟩
    · exact ⟨'-', _, rfl, .inl rfl⟩
  obtain ⟨c, cs, hchars, hc⟩ := hhead
  have hgap : isGap c = false := by
    rcases hc with rfl | hc
    · rfl
    · exact isGap_of_isNameChar (isNameChar_of_isDigit hc)
  rw [hchars, List.cons_append, readValue?, skipGaps, List.dropWhile_cons_of_neg (by simp [hgap])]
  -- No other value begins with such a character.
  split
  all_goals first
    | rename_i heq
      obtain ⟨rfl, -⟩ := List.cons.inj heq
      exact absurd hc (by decide)
    | rfl

/-! ## Rounded digits -/

theorem appendDigit?_cases (m : Nat) (c : Char) :
    (10 * m + (c.toNat - '0'.toNat) < UInt64.size ∧ appendDigit? m c = some (10 * m + (c.toNat - '0'.toNat))) ∨
      (UInt64.size ≤ 10 * m + (c.toNat - '0'.toNat) ∧ appendDigit? m c = none) := by
  rw [appendDigit?]
  split
  · exact .inl ⟨‹_›, rfl⟩
  · exact .inr ⟨Nat.le_of_not_lt ‹_›, rfl⟩

/-- Of a number that 64 bits do not hold, the digits before one that does not fit remain, and at least that one is cut. -/
theorem appendWhole_large {cs : List Char} {m : Nat} (hm : m < UInt64.size) (hdigits : ∀ c ∈ cs, c.isDigit = true)
    (hlarge : UInt64.size ≤ Nat.ofDigitChars 10 cs m) :
    ∃ k e : Nat, appendWhole m cs = (k, (e : Int)) ∧ UInt64.size ≤ 10 * k + 9 ∧ 0 < e := by
  -- As long as digits fit, the number of all digits stays the same; one of them has to be the first that does not.
  induction cs generalizing m with
  | nil =>
    rw [Nat.ofDigitChars_nil] at hlarge
    exact absurd hm (Nat.not_lt.2 hlarge)
  | cons c cs ih =>
    rw [List.forall_mem_cons] at hdigits
    rw [Nat.ofDigitChars_cons] at hlarge
    rcases appendDigit?_cases m c with ⟨hfits, hnext⟩ | ⟨hover, hnone⟩
    · rw [appendWhole_cons, hnext]
      exact ih hfits hdigits.2 hlarge
    · have hdigit : c.toNat - '0'.toNat ≤ 9 := by
        have hrange := Char.isDigit_iff_toNat.1 hdigits.1
        have hzero : '0'.toNat = 48 := rfl
        have hnine : '9'.toNat = 57 := rfl
        omega
      rw [appendWhole_cons, hnone]
      exact ⟨m, cs.length + 1, rfl, hover.trans (Nat.add_le_add_left hdigit _), Nat.succ_pos _⟩

theorem magnitude_twice {whole : List Char} {k e : Nat} (h : appendWhole 0 whole = (k, (e : Int))) :
    Rounding.magnitude .twice whole [] 0 = scale k e := by
  have hzeros : Rounding.magnitude .twice whole [] 0 = scale (appendWhole 0 whole).1 ((appendWhole 0 whole).2 + 0 + 0) := rfl
  rw [hzeros, h, Int.add_zero, Int.add_zero]

/-- Both ways of rounding keep a number of more than 64 bits beyond 63 bits. -/
theorem beyond_magnitude (rounding : Rounding) {n : Nat} (hn : UInt64.size ≤ n) :
    Beyond (rounding.magnitude (Nat.toDigits 10 n) [] 0).toModel.unpack .positive 63 := by
  have hsize : UInt64.size = 2 ^ 64 := rfl
  cases rounding with
  | once =>
    have hnumeral : Rounding.magnitude .once (Nat.toDigits 10 n) [] 0 = ofDecimal n ((0 : Nat) : Int) := by
      simp only [Rounding.magnitude, Numeral.toFloat, List.append_nil, Nat.ofDigitChars_ten_toDigits]
      rfl
    have hbeyond := beyond_ofDecimal (m := n) (by omega) 0
    have hlog : 64 ≤ (n * 10 ^ 0).log2 := by
      rw [Nat.le_log2 (by omega)]
      omega
    rw [hnumeral]
    exact hbeyond.mono (by omega)
  | twice =>
    have hlarge : UInt64.size ≤ Nat.ofDigitChars 10 (Nat.toDigits 10 n) 0 := by rwa [Nat.ofDigitChars_ten_toDigits]
    obtain ⟨k, e, hwhole, hk, he⟩ := appendWhole_large (Nat.two_pow_pos 64) (isDigit_toDigits n) hlarge
    have hproduct : Rounding.magnitude .twice (Nat.toDigits 10 n) [] 0 = ofDecimal k ((0 : Nat) : Int) * ofDecimal 1 (e : Int) := by
      rw [magnitude_twice hwhole, scale, if_neg (by omega), if_pos (by omega)]
      rfl
    have hlogk : 60 ≤ (k * 10 ^ 0).log2 := by
      rw [Nat.le_log2 (by omega)]
      omega
    have hloge : 3 ≤ (1 * 10 ^ e).log2 := by
      rw [Nat.one_mul]
      exact log2_ten_pow he
    have hbeyond := (beyond_ofDecimal (m := k) (by omega) 0).mul (beyond_ofDecimal (m := 1) (by omega) e) (by omega)
    rw [hproduct]
    exact hbeyond.unpack_pack.mono (by omega)

end Json

end SqlTemplate
