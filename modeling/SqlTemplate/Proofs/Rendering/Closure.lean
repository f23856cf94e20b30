import SqlTemplate.Proofs.Template.Tree
import SqlTemplate.Rendering.Apply

/-! # What holds of every rendering

A rendering is put together from a few steps, by each kind of node in its own way. What holds of all these steps, and of
computations that are put together from such as it holds of, holds of every rendering.
-/

namespace SqlTemplate

/-- A property that the steps of a rendering have, and that is kept when they are put together. -/
structure Render.Closed (P : ∀ {α : Type}, Render α → Prop) : Prop where
  pure {α : Type} (a : α) : P (Pure.pure a : Render α)
  bind {α β : Type} {r : Render α} {f : α → Render β} : P r → (∀ a, P (f a)) → P (r >>= f)
  eval (e : Expr) : P (eval e)
  eval? (e : Expr) : P (eval? e)
  segments (parts : List Segment) : P (segments parts)
  append (s : String) : P (append s)
  bindName (name : String) (v : Value) : P (Render.bind name v)
  next : P next
  capture {α : Type} {r : Render α} : P r → P (capture r)
  keeping {α : Type} (l : Loop) {r : Render α} : P r → P (keeping l.names r)
  notIterable (e : Expr) (v : Value) : P (throw (.evaluation (.notIterable e v)) : Render Bool)

variable {P : ∀ {α : Type}, Render α → Prop}

namespace Render.Closed

variable (h : Closed P) {body : Render Bool}

include h

theorem evalTest (e : Expr) : P (evalTest e) := h.bind (h.eval e) fun _ => h.pure _

/-- Whatever comes before it, the result of a step may be replaced by another. -/
theorem result {α β : Type} {r : Render α} (hr : P r) (b : β) : P (r >>= fun _ => Pure.pure b) := h.bind hr fun _ => h.pure b

theorem clause (cl : Clause) (hbody : P body) : P (clause cl body) := by
  refine h.bind (h.capture hbody) fun text => ?_
  split
  · exact h.result (h.append _) true
  · exact h.pure _

theorem bindEntry (n : Nat) (v : Value) (name : Option String) : P (Loop.bindEntry n v name) := by
  cases name with
  | none => exact h.pure _
  | some name => exact h.bind (h.bindName _ v) fun _ => h.bindName name v

theorem iterate (l : Loop) (hbody : P body) (entries : List (Value × Value)) : P (l.iterate body entries) := by
  induction entries with
  | nil => exact h.pure _
  | cons entry entries ih =>
    obtain ⟨key, value⟩ := entry
    refine h.bind h.next fun n => h.bind (h.bindEntry n key l.index) fun _ => ?_
    refine h.bind (h.bindEntry n value l.item) fun _ => h.bind (h.capture hbody) fun _ => ?_
    exact h.bind ih fun _ => h.pure _

theorem loop (l : Loop) (hbody : P body) : P (l.render body) := by
  refine h.bind (h.eval? _) fun v => ?_
  split
  · exact h.pure _
  · exact h.pure _
  · split
    · exact h.notIterable _ _
    · exact h.pure _
    · refine h.bind (h.keeping l (h.iterate l hbody _)) fun bodies => ?_
      split
      · exact h.pure _
      · exact h.result (h.append _) true

end Render.Closed

namespace Node

theorem renderAll_closed (h : Render.Closed P) {nodes : List Node} (hnodes : ∀ n ∈ nodes, P n.render) : P (renderAll nodes) := by
  induction nodes with
  | nil => exact h.pure _
  | cons n nodes ih =>
    rw [List.forall_mem_cons] at hnodes
    exact h.bind hnodes.1 fun _ => ih hnodes.2

theorem renderWhens_closed (h : Render.Closed P) {whens : List (Expr × Node)} (hwhens : ∀ w ∈ whens, P w.2.render) :
    P (renderWhens whens) := by
  induction whens with
  | nil => exact h.pure _
  | cons w whens ih =>
    obtain ⟨test, body⟩ := w
    rw [List.forall_mem_cons] at hwhens
    refine h.bind (h.evalTest test) fun t => ?_
    split
    · exact h.result hwhens.1 true
    · exact ih hwhens.2

theorem render_closed (h : Render.Closed P) (n : Node) : P n.render := by
  induction n using tree_induction with
  | text s => exact h.result (h.append s) true
  | substituted source segments => exact h.bind (h.segments segments) fun _ => h.result (h.append _) true
  | conditional test body ih =>
    refine h.bind (h.evalTest test) fun t => ?_
    split
    · exact h.result ih true
    · exact h.pure _
  | choose whens otherwise ihw iho =>
    refine h.bind (renderWhens_closed h ihw) fun found => ?_
    split
    · exact h.pure _
    · cases otherwise with
      | none => exact h.pure _
      | some body => exact h.result (iho body rfl) true
  | clause kind cl body ih => exact h.clause cl ih
  | loop l body ih => exact h.loop l ih
  | bind name value => exact h.bind (h.eval? value) fun _ => h.result (h.bindName name _) true
  | sequence nodes ih => exact h.result (renderAll_closed h ih) true

end Node

end SqlTemplate
