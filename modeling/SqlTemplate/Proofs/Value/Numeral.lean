import SqlTemplate.Expr.Evaluate
import SqlTemplate.Proofs.Expr.Navigation
import SqlTemplate.Proofs.Number.Whole

/-! # Integers beside their decimal texts

Arithmetic takes a decimal text for the integer that it is. Equality takes it for the floating-point number that is nearest to the
integer, so that two integers of more than 53 binary digits can count as equal.
-/

namespace SqlTemplate

open Text

namespace Number

theorem takeSign_digits {cs : List Char} (h : ∀ c ∈ cs.head?, c.isDigit = true) : takeSign cs = (false, cs) := by
  unfold takeSign
  split
  · cases h '-' rfl
  · cases h '+' rfl
  · rfl

theorem takeSign_intText (n : Int) : takeSign (intText n) = (decide (n < 0), Nat.toDigits 10 n.natAbs) := by
  unfold intText
  split
  · rename_i hneg
    rw [takeSign, decide_eq_true hneg]
  · rename_i hpos
    rw [takeSign_digits, decide_eq_false hpos]
    exact fun c hc => isDigit_toDigits _ c (List.mem_of_mem_head? hc)

theorem readNumeral?_intText (n : Int) :
    readNumeral? (intText n) = some ⟨decide (n < 0), Nat.toDigits 10 n.natAbs, [], 0⟩ := by
  obtain ⟨htake, hdrop⟩ := run_whole (isDigit_toDigits n.natAbs)
  simp [readNumeral?, takeSign_intText, htake, hdrop, readExponent?]

/-- The text of an integer reads as what the integer becomes. -/
theorem readFloat?_intText (n : Int) : readFloat? (intText n) = some (ofInt n) := by
  simp only [readFloat?, readNumeral?_intText, Numeral.toFloat, List.append_nil, Nat.ofDigitChars_ten_toDigits]
  rfl

theorem trim_intText (n : Int) : trim (intText n) = intText n := by
  refine trim_visible fun c hc => ?_
  rcases mem_intText hc with rfl | hc
  · decide
  · exact isBlank_of_isDigit hc

theorem natAbs_word (k : Int64) : k.toInt.natAbs < 2 ^ 64 := by
  have hlow := Int64.le_toInt k
  have hhigh := Int64.toInt_lt k
  omega

/-- Equal, or of more than 53 binary digits with the same nearest floating-point number. -/
def SameRounded (m n : Int) : Prop := m = n ∨ (2 ^ 53 ≤ m.natAbs ∧ 2 ^ 53 ≤ n.natAbs ∧ nearest m = nearest n)

theorem nearest_eq_iff (m n : Int) : nearest m = nearest n ↔ SameRounded m n := by
  by_cases hsmall : m.natAbs < 2 ^ 53 ∨ n.natAbs < 2 ^ 53
  · rw [nearest_inj hsmall, SameRounded]
    exact ⟨.inl, fun h => h.elim id fun ⟨hm, hn, _⟩ => by omega⟩
  · rw [not_or, not_lt, not_lt] at hsmall
    constructor
    · exact fun h => .inr ⟨hsmall.1, hsmall.2, h⟩
    · rintro (rfl | ⟨-, -, h⟩)
      · rfl
      · exact h

end Number

namespace Value

open Number (SameRounded nearest_eq_iff)

variable (n m : Int64)

theorem numericString?_intText : numericString? (.string (intText m)) = some (Number.ofInt m.toInt) := by
  rw [numericString?, toList_intText, Number.trim_intText, Number.readFloat?_intText]

theorem integerOperand?_intText : integerOperand? (.string (intText m)) = some m := by
  rw [integerOperand?, toList_intText, Number.trim_intText, Number.readInt64?_intText]

theorem int_equals_text : (Value.int n).equals (.string (intText m)) = true ↔ SameRounded n.toInt m.toInt := by
  rw [← nearest_eq_iff, ← Number.ofInt_beq (Number.natAbs_word n) (Number.natAbs_word m)]
  simp only [equals, numericString?_intText]
  rfl

theorem text_equals_int : (Value.string (intText m)).equals (.int n) = true ↔ SameRounded n.toInt m.toInt := by
  rw [← int_equals_text]
  rfl

theorem subtract_text : Expr.applyBinary .sub (.int n) (.string (intText m)) = exact .sub (n.toInt - m.toInt) := by
  change (Value.int n).arithmetic .sub (.string (intText m)) = _
  simp only [arithmetic, arithmetic?, integerOperand?_intText]
  rfl

/-- The word is the integer exactly if it is given. -/
theorem exact_ok_iff {op : BinaryOp} {k : Int} {w : Int64} : exact op k = .ok (.int w) ↔ w.toInt = k := by
  unfold exact
  constructor
  · intro h
    split at h
    · rename_i hfits
      cases h
      exact Number.toInt_of_toInt64? hfits
    · cases h
  · rintro rfl
    rw [Number.toInt64?_toInt]

/-- Beside the text of an integer another one counts as equal, and is found among such texts, where both become the same floating-point
number. Their difference is zero only if they are the same. -/
theorem equals_intText :
    ((Value.int n).equals (.string (intText m)) = true ↔ SameRounded n.toInt m.toInt) ∧
      ((Value.string (intText m)).equals (.int n) = true ↔ SameRounded n.toInt m.toInt) ∧
      (Expr.applyBinary .sub (.int n) (.string (intText m)) = .ok (.int 0) ↔ n = m) ∧
      ∀ ids : List Int64, ∃ found,
        Expr.applyBinary .isIn (.int n) (.list (ids.map fun k => .string (intText k))) = .ok (.bool found) ∧
          (found = true ↔ ∃ k ∈ ids, SameRounded n.toInt k.toInt) := by
  refine ⟨int_equals_text n m, text_equals_int n m, ?_, fun ids => ⟨_, rfl, ?_⟩⟩
  · rw [subtract_text, exact_ok_iff, ← Int64.toInt_inj]
    have hzero : (0 : Int64).toInt = 0 := rfl
    omega
  · simp [List.any_eq_true, text_equals_int]

/-- The least whole number that is no floating-point number counts as equal to its neighbour. -/
theorem text_of_other_integer :
    ∃ n m : Int64, n ≠ m ∧ (Value.int n).equals (.string (intText m)) = true ∧
      Expr.applyBinary .isIn (.int n) (.list [.string (intText m)]) = .ok (.bool true) ∧
      Expr.applyBinary .sub (.int n) (.string (intText m)) = .ok (.int 1) := by
  have hsame : SameRounded (9007199254740993 : Int64).toInt (9007199254740992 : Int64).toInt := by
    refine .inr ?_
    decide +kernel
  refine ⟨9007199254740993, 9007199254740992, by decide, (int_equals_text _ _).2 hsame, ?_, ?_⟩
  · have hequal := (text_equals_int _ _).2 hsame
    rw [Expr.applyBinary, holds, List.any_cons, hequal]
    rfl
  · rw [subtract_text]
    exact exact_ok_iff.2 rfl

end Value

end SqlTemplate
