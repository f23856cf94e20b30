import SqlTemplate.Proofs.Rendering.Emission
import SqlTemplate.Proofs.Rendering.Growth

/-! # The scope of a loop variable

A loop binds its names anew for every entry, and its body may bind them as well, in loops of its own or by a node that does
nothing else. All of this ends with the loop. Its names are then bound as they were before, also if the collection has no meaning
or the body fails in some turn.
-/

namespace SqlTemplate

open SqlTemplate.Computation

/-- Each of the names has the same value in both contexts, or is bound in neither. -/
def SameBindings (names : List String) (c d : Context) : Prop :=
  ∀ name ∈ names, Dict.get? d.bindings name = Dict.get? c.bindings name

instance (names : List String) : IsPreorder Context (SameBindings names) where
  refl _ := fun _ _ => rfl
  trans _ _ _ h h' := fun name hname => (h' name hname).trans (h name hname)

theorem Render.append_sameBindings (names : List String) (s : String) : Moves (SameBindings names) (append s) :=
  fun _ _ _ => rfl

namespace Loop

variable (l : Loop)

/-- Nothing is asked of what runs inside. It may bind the names to anything and it may fail. -/
theorem keeping_sameBindings {α : Type} (r : Render α) : Moves (SameBindings l.names) (Render.keeping l.names r) := by
  intro c name hname
  change Dict.get? (l.leave c (run r c).2).bindings name = _
  rw [get?_leave, if_pos hname]

theorem renderEntries_sameBindings (body : Render Bool) (entries : List (Value × Value)) :
    Moves (SameBindings l.names) (l.renderEntries body entries) := by
  refine .bind (keeping_sameBindings l _) fun bodies => ?_
  split
  · exact .pure _
  · exact .bind (Render.append_sameBindings _ _) fun _ => .pure _

/-- Only the turns are run inside the scope. The collection is looked up before it and the text is written after it. -/
theorem render_sameBindings (body : Render Bool) : Moves (SameBindings l.names) (l.render body) := by
  refine .bind (Render.eval?_moves _) fun v => ?_
  split
  · exact .pure _
  · exact .pure _
  · split
    · exact .throw _
    · exact .pure _
    · exact renderEntries_sameBindings l body _

end Loop

/-- However a loop ends, its item and its index are bound as they were before it, or not bound if they were not. -/
theorem Node.render_loop_scoped {l : Loop} {body : Node} {c d : Context} {result : Except Error Bool} {name : String}
    (h : run (Node.loop l body).render c = (result, d)) (hname : l.item = some name ∨ l.index = some name) :
    Dict.get? d.bindings name = Dict.get? c.bindings name := by
  have hscope := Loop.render_sameBindings l body.render c name (Loop.mem_names.2 hname)
  rw [← Node.render, h] at hscope
  exact hscope

/-- The body binds the index to something else and goes through a loop of its own over the item. Its second turn fails. -/
theorem Node.render_loop_scoped_failing :
    let inner : Node := .loop ⟨.ident "ids", some "x", some "x", none, none, none⟩ (.text "#{x}")
    let body : Node := .sequence [.bind "i" (.literal .null), inner, .bind "y" (.binary (.literal (.int 4)) .div (.ident "x"))]
    let l : Loop := ⟨.ident "ids", some "x", some "i", none, none, none⟩
    let c := (Context.initial (.map [("ids", .list [.int 2, .int 0])]) none).bind "x" (.int 7)
    ∃ e d, run (Node.loop l body).render c = (.error e, d) ∧ Dict.get? d.bindings "x" = some (.int 7) ∧
      Dict.get? d.bindings "i" = none := by
  intro inner body l c
  obtain ⟨e, hrun⟩ := run_of_toOption_none (x := (Node.loop l body).render) (s := c) (by decide +kernel)
  have hitem := (Node.render_loop_scoped hrun (.inl rfl)).trans (show Dict.get? c.bindings "x" = some (.int 7) from rfl)
  have hindex := (Node.render_loop_scoped hrun (.inr rfl)).trans (show Dict.get? c.bindings "i" = none from rfl)
  exact ⟨e, _, hrun, hitem, hindex⟩

end SqlTemplate
