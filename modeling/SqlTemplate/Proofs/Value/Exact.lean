import SqlTemplate.Proofs.Value.Numeral

/-! # Exact arithmetic

Of integers, and of texts that are integers, every operation gives its mathematical result or no value. It gives none where the divisor
is zero and where 64 bits do not hold the result, or the quotient that belongs to a remainder.
-/

namespace SqlTemplate

/-! ## Operands -/

namespace Value

/-- The value is the integer, or a text that is it but for blanks around it: digits, perhaps after a sign. -/
inductive StandsFor : Value → Int64 → Prop
  | int (n : Int64) : StandsFor (.int n) n
  | text {s : String} {sign digits : List Char} {n : Int64} (htrim : Text.trim s.toList = sign ++ digits)
    (hsign : sign ∈ [[], ['+'], ['-']]) (hne : digits ≠ []) (hdigits : ∀ c ∈ digits, c.isDigit = true)
    (hn : n.toInt = if sign = ['-'] then -(Nat.ofDigitChars 10 digits 0 : Int) else Nat.ofDigitChars 10 digits 0) :
    StandsFor (.string s) n

theorem StandsFor.integerOperand? {v : Value} {n : Int64} (h : v.StandsFor n) : v.integerOperand? = some n := by
  cases h with
  | int => rfl
  | @text s sign digits _ htrim hsign hne hdigits hn =>
    have hint : Number.readInt? (sign ++ digits) = some n.toInt := by
      simp only [List.mem_cons, List.not_mem_nil, or_false] at hsign
      rcases hsign with rfl | rfl | rfl
      · rw [List.nil_append, Number.readInt?_run hne hdigits, hn]
        rfl
      · simp [Number.readInt?, Number.readNat?, Number.readDigits?_run hne hdigits, hn]
      · simp [Number.readInt?, Number.readDigits?_run hne hdigits, hn]
    rw [Value.integerOperand?, htrim, Number.readInt64?, hint, Option.bind_some, Number.toInt64?_toInt]

end Value

/-! ## Operations on integers -/

/-- The result of an operation. Division goes toward zero, and the remainder is what it leaves. -/
inductive BinaryOp.Computes : BinaryOp → Int → Int → Int → Prop
  | add (a b : Int) : Computes .add a b (a + b)
  | sub (a b : Int) : Computes .sub a b (a - b)
  | mul (a b : Int) : Computes .mul a b (a * b)
  | div (a : Int) {b : Int} (hb : b ≠ 0) : Computes .div a b (a.tdiv b)
  | rem (a : Int) {b : Int} (hb : b ≠ 0) : Computes .rem a b (a.tmod b)

/-- What the operation takes for integers. A sum takes no texts for them. -/
def BinaryOp.Takes (op : BinaryOp) (x y : Value) (m n : Int64) : Prop :=
  (op = .add ∧ x = .int m ∧ y = .int n) ∨ (op ∈ [.sub, .mul, .div, .rem] ∧ x.StandsFor m ∧ y.StandsFor n)

/-- The operation whose result 64 bits have to hold. -/
def BinaryOp.checked (op : BinaryOp) : BinaryOp := if op = .rem then .div else op

def FitsWord (n : Int) : Prop := -2 ^ 63 ≤ n ∧ n < 2 ^ 63

/-- How an operation ends: with its result, or without one for a divisor of zero or a result that 64 bits do not hold. -/
def BinaryOp.Ends (op : BinaryOp) (a b : Int) (r : Except EvaluationFault Value) : Prop :=
  (∃ w : Int64, r = .ok (.int w) ∧ op.Computes a b w.toInt) ∨
    (r = .error .divisionByZero ∧ (op = .div ∨ op = .rem) ∧ b = 0) ∨
    (r = .error (.overflow op) ∧ ∃ k, op.checked.Computes a b k ∧ ¬ FitsWord k)

namespace Value

theorem exact_cases (op : BinaryOp) (k : Int) :
    (∃ w : Int64, exact op k = .ok (.int w) ∧ w.toInt = k) ∨ (exact op k = .error (.overflow op) ∧ ¬ FitsWord k) := by
  unfold exact
  split
  · rename_i w hw
    exact .inl ⟨w, rfl, Number.toInt_of_toInt64? hw⟩
  · rename_i hnone
    refine .inr ⟨rfl, fun hfits => ?_⟩
    rw [Number.toInt64?, Int64.toInt_minValue, Int64.toInt_maxValue, if_pos ⟨hfits.1, by have := hfits.2; omega⟩] at hnone
    cases hnone

theorem exact_ends {op : BinaryOp} {a b k : Int} (h : op.Computes a b k) (hop : op ≠ .rem) : op.Ends a b (exact op k) := by
  rcases exact_cases op k with ⟨w, hexact, hw⟩ | ⟨hexact, hbeyond⟩
  · exact .inl ⟨w, hexact, hw ▸ h⟩
  · refine .inr (.inr ⟨hexact, k, ?_, hbeyond⟩)
    rwa [BinaryOp.checked, if_neg hop]

theorem fitsWord_tmod (a : Int) {b : Int} (hb : b ≠ 0) (hfits : FitsWord b) : FitsWord (a.tmod b) := by
  have hless : (a.tmod b).natAbs < b.natAbs := by
    rw [Int.natAbs_tmod]
    exact Nat.mod_lt _ (by omega)
  obtain ⟨hlow, hhigh⟩ := hfits
  exact ⟨by omega, by omega⟩

theorem integerArithmetic_ends {op : BinaryOp} (hop : op ∈ [.add, .sub, .mul, .div, .rem]) (a : Int) {b : Int} (hb : FitsWord b) :
    ∃ r, integerArithmetic op a b = some r ∧ op.Ends a b r := by
  simp only [List.mem_cons, List.not_mem_nil, or_false] at hop
  rcases hop with rfl | rfl | rfl | rfl | rfl
  · exact ⟨_, rfl, exact_ends (.add a b) (by decide)⟩
  · exact ⟨_, rfl, exact_ends (.sub a b) (by decide)⟩
  · exact ⟨_, rfl, exact_ends (.mul a b) (by decide)⟩
  · refine ⟨_, rfl, ?_⟩
    split
    · rename_i hzero
      exact .inr (.inl ⟨rfl, .inl rfl, hzero⟩)
    · rename_i hzero
      exact exact_ends (.div a hzero) (by decide)
  · refine ⟨_, rfl, ?_⟩
    split
    · rename_i hzero
      exact .inr (.inl ⟨rfl, .inr rfl, hzero⟩)
    · -- With a quotient that fits there is a remainder that does.
      rename_i hzero
      rcases exact_cases .rem (a.tdiv b) with ⟨w, hquotient, -⟩ | ⟨hquotient, hbeyond⟩
      · rw [hquotient]
        rcases exact_cases .rem (a.tmod b) with ⟨v, hexact, hv⟩ | ⟨-, hbeyond⟩
        · exact .inl ⟨v, hexact, hv ▸ .rem a hzero⟩
        · exact absurd (fitsWord_tmod a hzero hb) hbeyond
      · rw [hquotient]
        exact .inr (.inr ⟨rfl, _, .div a hzero, hbeyond⟩)

theorem arithmetic_ends {op : BinaryOp} {x y : Value} {m n : Int64} (hop : op ∈ [.add, .sub, .mul, .div, .rem])
    (hx : x.StandsFor m) (hy : y.StandsFor n) : op.Ends m.toInt n.toInt (x.arithmetic op y) := by
  obtain ⟨r, hresult, hends⟩ := integerArithmetic_ends hop m.toInt ⟨Int64.le_toInt n, Int64.toInt_lt n⟩
  simpa only [arithmetic, arithmetic?, hx.integerOperand?, hy.integerOperand?, hresult, Option.getD_some] using hends

theorem applyBinary_ends {op : BinaryOp} {x y : Value} {m n : Int64} (h : op.Takes x y m n) :
    op.Ends m.toInt n.toInt (Expr.applyBinary op x y) := by
  rcases h with ⟨rfl, rfl, rfl⟩ | ⟨hop, hx, hy⟩
  · exact arithmetic_ends (by decide) (.int m) (.int n)
  · have hends := arithmetic_ends (List.mem_cons_of_mem _ hop) hx hy
    simp only [List.mem_cons, List.not_mem_nil, or_false] at hop
    rcases hop with rfl | rfl | rfl | rfl <;> exact hends

end Value

end SqlTemplate
