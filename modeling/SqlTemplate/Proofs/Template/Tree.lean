import SqlTemplate.Template.Node
import SqlTemplate.Template.Build

/-! # Induction on templates -/

namespace SqlTemplate.Node

/-- Induction with one case for each kind of node. The nodes below a list or a choice are met by membership. -/
@[elab_as_elim]
theorem tree_induction {P : Node → Prop}
    (text : ∀ s, P (.text s))
    (substituted : ∀ source segments, P (.substituted source segments))
    (conditional : ∀ test body, P body → P (.conditional test body))
    (choose : ∀ whens otherwise, (∀ w ∈ whens, P w.2) → (∀ body ∈ otherwise, P body) → P (.choose whens otherwise))
    (clause : ∀ kind c body, P body → P (.clause kind c body))
    (loop : ∀ l body, P body → P (.loop l body))
    (bind : ∀ name value, P (.bind name value))
    (sequence : ∀ nodes, (∀ n ∈ nodes, P n) → P (.sequence nodes)) (n : Node) : P n := by
  refine Node.rec (motive_1 := P) (motive_2 := fun whens => ∀ w ∈ whens, P w.2)
    (motive_3 := fun otherwise => ∀ body ∈ otherwise, P body) (motive_4 := fun nodes => ∀ n ∈ nodes, P n)
    (motive_5 := fun w => P w.2) text substituted conditional choose clause loop bind sequence ?_ ?_ ?_ ?_ ?_ ?_ ?_ n
  · simp
  · exact fun _ _ head tail => List.forall_mem_cons.2 ⟨head, tail⟩
  · simp
  · simp
  · simp
  · exact fun _ _ head tail => List.forall_mem_cons.2 ⟨head, tail⟩
  · exact fun _ _ body => body

end SqlTemplate.Node
