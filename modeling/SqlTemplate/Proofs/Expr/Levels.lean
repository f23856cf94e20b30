import SqlTemplate.Expr.Parser
import SqlTemplate.Proofs.Text.Reading

/-! # Levels of operators

An operand stays alone at every level that finds no operator after it. An operation is put together at the level of its operator:
the tighter levels leave the operator in the text, and the looser ones find none after the right operand.
-/

namespace SqlTemplate

/-- The place of an operator among the levels. -/
def BinaryOp.levelNumber : BinaryOp → Nat
  | .or => 0
  | .and => 1
  | .eq | .ne => 2
  | .lt | .le | .gt | .ge | .isIn | .notIn => 3
  | .add | .sub => 4
  | .mul | .div | .rem => 5

namespace Expr

open Text

variable {operand : Parser Expr} {operators : List Operator} {ls : List (List Operator)} {left right e : Expr}
  {s rest : List Char}

/-! ## One level -/

theorem level_stops (hread : operand s = .done e rest) (hnone : takeOperator? operators (skipGaps rest) = none) :
    level operators operand s = .done e rest := by
  rw [level, hread]
  cases hlength : rest.length with
  | zero =>
    simp only [hlength]
    rfl
  | succ fuel => simp only [hlength, chain, hnone]

/-- The chain goes on with one operator and stops after its right operand. -/
theorem level_binary {between : List Char} (hleft : operand s = .done left between)
    {op : BinaryOp} {after : List Char} (hop : takeOperator? operators (skipGaps between) = some (op, after))
    (hright : operand (skipGaps after) = .done right rest)
    (hnone : takeOperator? operators (skipGaps rest) = none) (hfuel : 1 < between.length) :
    level operators operand s = .done (.binary left op right) rest := by
  obtain ⟨fuel, hlength⟩ : ∃ n, between.length = n + 2 := Nat.exists_eq_add_of_le' hfuel
  rw [level, hleft]
  simp only [hlength, chain, hop, hright, hnone]

/-! ## All levels -/

theorem binaries_append (looser tighter : List (List Operator)) (operand : Parser Expr) :
    binaries (looser ++ tighter) operand = binaries looser (binaries tighter operand) := by
  induction looser with
  | nil => rfl
  | cons operators looser ih => rw [List.cons_append, binaries, binaries, ih]

theorem binaries_stops (hread : operand s = .done e rest) (hnone : ∀ l ∈ ls, takeOperator? l (skipGaps rest) = none) :
    binaries ls operand s = .done e rest := by
  induction ls with
  | nil => exact hread
  | cons operators ls ih =>
    rw [List.forall_mem_cons] at hnone
    rw [binaries]
    exact level_stops (ih hnone.2) hnone.1

/-! ## What stops every level -/

/-- But for gaps the text is at its end or at a character that closes an operand. -/
def Closed (rest : List Char) : Prop := ∀ c ∈ (skipGaps rest).head?, c ∈ [')', ']', '}', ',', ':']

theorem Closed.takeOperator? (h : Closed rest) : ∀ l ∈ levels, takeOperator? l (skipGaps rest) = none := by
  unfold Closed at h
  cases hs : skipGaps rest with
  | nil => decide
  | cons c s =>
    have hc := h c (by rw [hs]; rfl)
    have hall : (levels.all fun l => (Expr.takeOperator? l (c :: s)).isNone) = true := by
      simp only [List.mem_cons, List.not_mem_nil, or_false] at hc
      rcases hc with rfl | rfl | rfl | rfl | rfl <;> rfl
    exact fun l hl => Option.isNone_iff_eq_none.1 (List.all_eq_true.1 hall l hl)

/-! ## An operation -/

/-- Only the level of an operator takes it, and the tighter ones do not. -/
theorem takeOperator?_text (op : BinaryOp) (rest : List Char) :
    ∃ operators, levels = levels.take op.levelNumber ++ operators :: levels.drop (op.levelNumber + 1) ∧
      takeOperator? operators (op.text.toList ++ ' ' :: rest) = some (op, ' ' :: rest) ∧
      ∀ l ∈ levels.drop (op.levelNumber + 1), takeOperator? l (op.text.toList ++ ' ' :: rest) = none := by
  have htighter : ((levels.drop (op.levelNumber + 1)).all fun l =>
      (takeOperator? l (op.text.toList ++ ' ' :: rest)).isNone) = true := by
    cases op <;> rfl
  have hnone : ∀ l ∈ levels.drop (op.levelNumber + 1), takeOperator? l (op.text.toList ++ ' ' :: rest) = none :=
    fun l hl => Option.isNone_iff_eq_none.1 (List.all_eq_true.1 htighter l hl)
  cases op <;> exact ⟨_, rfl, rfl, hnone⟩

theorem skipGaps_text (op : BinaryOp) (rest : List Char) :
    skipGaps (' ' :: (op.text.toList ++ ' ' :: rest)) = op.text.toList ++ ' ' :: rest := by
  cases op <;> rfl

/-- Two operands with an operator between them are one operation if no operator stands after them. -/
theorem binaries_binary {op : BinaryOp} (after : List Char) (hleft : operand s = .done left (' ' :: (op.text.toList ++ ' ' :: after)))
    (hright : operand (skipGaps (' ' :: after)) = .done right rest) (hclosed : Closed rest) :
    binaries levels operand s = .done (.binary left op right) rest := by
  obtain ⟨operators, hlevels, htake, htighter⟩ := takeOperator?_text op after
  have hnone := hclosed.takeOperator?
  rw [hlevels, List.forall_mem_append, List.forall_mem_cons] at hnone
  obtain ⟨hlooser, hlevel, hmore⟩ := hnone
  rw [← skipGaps_text] at htake htighter
  rw [hlevels, binaries_append, binaries]
  have hleft' := binaries_stops hleft htighter
  have hright' := binaries_stops hright hmore
  exact binaries_stops (level_binary hleft' htake hright' hlevel (by simp only [List.length_append, List.length_cons]; omega)) hlooser

end Expr

end SqlTemplate
