import SqlTemplate.Proofs.Expr.Levels

/-! # How operators group

A tree of binary operations says how the operators between operands group. The levels leave one tree only for operands and
operators in a given order: an operator of a tighter level stands further down, and of two operators of one level the left one does.
-/

namespace SqlTemplate.Expr

/-- Operators, each with the operand after it. -/
abbrev Links := List (BinaryOp × Expr)

/-- The first operand of a tree of binary operations, and the operators and operands after it from left to right. -/
def inOrder : Expr → Expr × Links
  | .binary left op right => (left.inOrder.1, left.inOrder.2 ++ (op, right.inOrder.1) :: right.inOrder.2)
  | e => (e, [])

/-- Left of an operator there is no looser one below it, and right of it there are tighter ones only. -/
def Grouped : Expr → Prop
  | .binary left op right =>
    left.Grouped ∧ right.Grouped ∧ (∀ link ∈ left.inOrder.2, op.levelNumber ≤ link.1.levelNumber) ∧
      ∀ link ∈ right.inOrder.2, op.levelNumber < link.1.levelNumber
  | _ => True

variable {left right e e' first : Expr} {op : BinaryOp} {links before after : Links}

theorem inOrder_binary (left : Expr) (op : BinaryOp) (right : Expr) :
    (binary left op right).inOrder = (left.inOrder.1, left.inOrder.2 ++ (op, right.inOrder.1) :: right.inOrder.2) := rfl

/-- Nothing but an operation has operators in it. -/
theorem inOrder_eq_nil (h : e.inOrder = (first, [])) : e = first := by
  cases e with
  | binary left op right => simp [inOrder] at h
  | _ => exact congrArg Prod.fst h

/-- An operator that stands at the top of one tree cannot stand left of the top of another. -/
theorem grouped_top_unique {as : Links} {op op' : BinaryOp} {b b' : Expr} {ls ls' rs rs' : Links}
    (hleft' : ∀ link ∈ ls', op'.levelNumber ≤ link.1.levelNumber) (hright : ∀ link ∈ rs, op.levelNumber < link.1.levelNumber)
    (hls : ls' = ls ++ as) (hrs : (op, b) :: rs = as ++ (op', b') :: rs') : as = [] := by
  cases as with
  | nil => rfl
  | cons a as =>
    rw [List.cons_append, List.cons.injEq] at hrs
    obtain ⟨rfl, rfl⟩ := hrs
    have hle : op'.levelNumber ≤ op.levelNumber := hleft' (op, b) (by simp [hls])
    have hlt : op.levelNumber < op'.levelNumber := hright (op', b') (by simp)
    omega

/-- There is one way only to group operands with operators between them. -/
theorem Grouped.unique (h : e.Grouped) (h' : e'.Grouped) (hsame : e.inOrder = e'.inOrder) : e = e' := by
  fun_induction inOrder e generalizing e' with
  | case1 left op right ihleft ihright =>
    obtain ⟨hl, hr, hleft, hright⟩ := h
    cases e' with
    | binary left' op' right' =>
      obtain ⟨hl', hr', hleft', hright'⟩ := h'
      rw [inOrder_binary, Prod.mk.injEq] at hsame
      obtain ⟨hfirst, hlinks⟩ := hsame
      have hcut : left.inOrder.2 = left'.inOrder.2 := by
        rcases List.append_eq_append_iff.1 hlinks with ⟨as, hls, hrs⟩ | ⟨as, hls, hrs⟩
        · rw [hls, grouped_top_unique hleft' hright hls hrs, List.append_nil]
        · rw [hls, grouped_top_unique hleft hright' hls hrs, List.append_nil]
      rw [hcut, List.append_cancel_left_eq, List.cons.injEq, Prod.mk.injEq] at hlinks
      obtain ⟨⟨rfl, hsecond⟩, hrest⟩ := hlinks
      rw [ihleft hl hl' (Prod.ext hfirst hcut), ihright hr hr' (Prod.ext hsecond hrest)]
    | _ => simp [inOrder] at hsame
  | case2 e hne => exact (inOrder_eq_nil hsame.symm).symm

end SqlTemplate.Expr
