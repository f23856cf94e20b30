import SqlTemplate.Proofs.Computation
import SqlTemplate.Proofs.Template.Tree
import SqlTemplate.Rendering.Apply

/-! # What a successful rendering has done

For every node the steps that a rendering without an error took. Loops are in `Turn.lean`.
-/

namespace SqlTemplate

open SqlTemplate.Computation

namespace Render

@[simp]
theorem run_append (s : String) (c : Context) : run (append s) c = (.ok ⟨⟩, c.append s) := rfl

@[simp]
theorem run_bindName (name : String) (v : Value) (c : Context) : run (Render.bind name v) c = (.ok ⟨⟩, c.bind name v) := rfl

@[simp]
theorem run_next (c : Context) : run next c = (.ok c.counter, { c with counter := c.counter + 1 }) := rfl

theorem run_eval (e : Expr) (c : Context) : run (eval e) c = ((e.eval c.bindings).mapError Error.ofEval, c) := by
  unfold eval
  rw [run_bind, run_get]
  exact run_ofExcept _ _

theorem evalTest_ok {e : Expr} {c d : Context} {b : Bool} :
    run (evalTest e) c = (.ok b, d) ↔ Expr.evalTest c.bindings e = .ok b ∧ d = c := by
  unfold evalTest Expr.evalTest
  simp only [bind_ok, run_eval, run_pure]
  rcases e.eval c.bindings with _ | v
  · simp [Except.map]
  · simp only [mapError_of_ok, Except.map, Prod.mk.injEq, Except.ok.injEq]
    constructor
    · rintro ⟨_, _, ⟨rfl, rfl⟩, rfl, rfl⟩
      exact ⟨rfl, rfl⟩
    · rintro ⟨rfl, rfl⟩
      exact ⟨_, _, ⟨rfl, rfl⟩, rfl, rfl⟩

theorem eval?_ok {e : Expr} {c d : Context} {v : Option Value} :
    run (eval? e) c = (.ok v, d) ↔
      d = c ∧ ((∃ w, e.eval c.bindings = .ok w ∧ v = some w) ∨
        (∃ u, e.eval c.bindings = .error (.unresolved u) ∧ v = none)) := by
  unfold eval?
  rw [run_bind, run_get]
  rcases h : e.eval c.bindings with (_ | _) | _ <;> simp [h, eq_comm, and_comm]

theorem capture_ok {α : Type} {r : Render α} {c d : Context} {s : String} :
    run (capture r) c = (.ok s, d) ↔
      ∃ a e, run r { c with fragments := [] } = (.ok a, e) ∧ s = " ".intercalate e.fragments ∧
        d = { e with fragments := c.fragments } := by
  unfold capture
  simp only [run]
  rcases r { c with fragments := [] } with ⟨_ | a, e⟩ <;> simp [Except.map, eq_comm, and_assoc]

theorem keeping_ok {α : Type} {names : List String} {r : Render α} {c d : Context} {a : α} :
    run (keeping names r) c = (.ok a, d) ↔
      ∃ e, run r c = (.ok a, e) ∧
        d = names.foldl (fun e name => e.restore name (Dict.get? c.bindings name)) e := by
  unfold keeping
  simp only [run]
  rcases r c with ⟨_ | b, e⟩ <;> simp [eq_comm, and_assoc]

/-- The text of a run is made after the name of a parameter without properties is bound. -/
theorem segments_ok {parts : List Segment} {c d : Context} {s : String} :
    run (segments parts) c = (.ok s, d) ↔
      d = (run bindScalar c).2 ∧ segmentsText d.bindings parts = .ok s := by
  have hscalar : run bindScalar c = (.ok ⟨⟩, (run bindScalar c).2) := rfl
  unfold segments
  rw [run_bind, hscalar]
  simp only [run_bind, run_get, run_ofExcept]
  rcases h : segmentsText (run bindScalar c).2.bindings parts with _ | t
  · simp only [mapError_of_error, Prod.mk.injEq, reduceCtorEq, false_and, false_iff]
    rintro ⟨rfl, hd⟩
    simp [h] at hd
  · simp only [mapError_of_ok, Prod.mk.injEq, Except.ok.injEq]
    constructor
    · rintro ⟨rfl, rfl⟩
      exact ⟨rfl, h⟩
    · rintro ⟨rfl, hd⟩
      exact ⟨by simpa [h] using hd, rfl⟩

theorem clause_ok {cl : Clause} {body : Render Bool} {c d : Context} {b : Bool} :
    run (clause cl body) c = (.ok b, d) ↔
      ∃ a e, run body { c with fragments := [] } = (.ok a, e) ∧ b = (cl.wrap? (" ".intercalate e.fragments)).isSome ∧
        d = { e with fragments := c.fragments ++ (cl.wrap? (" ".intercalate e.fragments)).toList } := by
  unfold clause
  simp only [bind_ok, capture_ok]
  constructor
  · rintro ⟨_, _, ⟨a, e, hbody, rfl, rfl⟩, h⟩
    refine ⟨a, e, hbody, ?_⟩
    cases hw : cl.wrap? (" ".intercalate e.fragments) with
    | none => simpa [hw, eq_comm] using h
    | some s =>
      simp only [hw, bind_pure_ok, run_append, Prod.mk.injEq] at h
      obtain ⟨_, ⟨-, rfl⟩, rfl⟩ := h
      exact ⟨rfl, rfl⟩
  · rintro ⟨a, e, hbody, rfl, rfl⟩
    refine ⟨_, _, ⟨a, e, hbody, rfl, rfl⟩, ?_⟩
    cases hw : cl.wrap? (" ".intercalate e.fragments) with
    | none => simp
    | some s => exact bind_pure_ok.2 ⟨⟨⟩, rfl, rfl⟩

end Render

theorem bindScalar_fragments (c : Context) : (run Render.bindScalar c).2.fragments = c.fragments := by
  simp only [Render.bindScalar, run_modify]
  split
  · rfl
  · split <;> rfl

theorem bindScalar_counter (c : Context) : (run Render.bindScalar c).2.counter = c.counter := by
  simp only [Render.bindScalar, run_modify]
  split
  · rfl
  · split <;> rfl

theorem bindScalar_get? (c : Context) (name : String) :
    Dict.get? (run Render.bindScalar c).2.bindings name =
      if name = scalarKey ∧ Dict.get? c.bindings scalarKey = none ∧ (c.bindings.parameter.isNull || c.bindings.parameter.isScalar) = true
      then some c.bindings.parameter else Dict.get? c.bindings name := by
  simp only [Render.bindScalar, run_modify, Dict.contains]
  by_cases hbound : Dict.get? c.bindings scalarKey = none
  · by_cases hplain : (c.bindings.parameter.isNull || c.bindings.parameter.isScalar) = true
    · simp [hbound, hplain, Context.bind, Dict.get?_insert]
    · simp [hbound, hplain]
  · simp [hbound, Option.isSome_iff_ne_none]

namespace Node

/-! ## One rule for each kind of node -/

variable {c d : Context} {b : Bool}

theorem render_text_ok {s : String} : run (Node.text s).render c = (.ok b, d) ↔ b = true ∧ d = c.append s := by
  rw [render_text, bind_pure_ok]
  simp [eq_comm, and_comm]

theorem render_substituted_ok {source : String} {parts : List Segment} :
    run (Node.substituted source parts).render c = (.ok b, d) ↔
      b = true ∧ ∃ s e, run (Render.segments parts) c = (.ok s, e) ∧ d = e.append s := by
  rw [render, bind_ok]
  constructor
  · rintro ⟨s, e, hs, h⟩
    obtain ⟨_, happ, rfl⟩ := bind_pure_ok.1 h
    simp only [Render.run_append, Prod.mk.injEq] at happ
    exact ⟨rfl, s, e, hs, happ.2.symm⟩
  · rintro ⟨rfl, s, e, hs, rfl⟩
    exact ⟨s, e, hs, bind_pure_ok.2 ⟨⟨⟩, rfl, rfl⟩⟩

theorem render_sequence_ok {nodes : List Node} :
    run (Node.sequence nodes).render c = (.ok b, d) ↔ b = true ∧ run (renderAll nodes) c = (.ok ⟨⟩, d) := by
  rw [render, bind_pure_ok]
  constructor
  · rintro ⟨_, h, hb⟩
    exact ⟨hb, h⟩
  · rintro ⟨hb, h⟩
    exact ⟨⟨⟩, h, hb⟩

theorem renderAll_nil_ok : run (renderAll []) c = (.ok ⟨⟩, d) ↔ d = c := by
  simp [eq_comm]

theorem renderAll_cons_ok {n : Node} {nodes : List Node} :
    run (renderAll (n :: nodes)) c = (.ok ⟨⟩, d) ↔
      ∃ a e, run n.render c = (.ok a, e) ∧ run (renderAll nodes) e = (.ok ⟨⟩, d) := by
  simp only [renderAll, bind_ok]

theorem renderAll_append_ok {ns ms : List Node} :
    run (renderAll (ns ++ ms)) c = (.ok ⟨⟩, d) ↔
      ∃ e, run (renderAll ns) c = (.ok ⟨⟩, e) ∧ run (renderAll ms) e = (.ok ⟨⟩, d) := by
  induction ns generalizing c with
  | nil => simp only [List.nil_append, renderAll_nil_ok, exists_eq_left]
  | cons n ns ih =>
    rw [List.cons_append, renderAll_cons_ok]
    simp only [renderAll_cons_ok, ih]
    constructor
    · rintro ⟨a, e, hn, e', hns, hms⟩
      exact ⟨e', ⟨a, e, hn, hns⟩, hms⟩
    · rintro ⟨e', ⟨a, e, hn, hns⟩, hms⟩
      exact ⟨a, e, hn, e', hns, hms⟩

theorem render_conditional_ok {test : Expr} {body : Node} :
    run (Node.conditional test body).render c = (.ok b, d) ↔
      Expr.evalTest c.bindings test = .ok b ∧ if b then ∃ a, run body.render c = (.ok a, d) else d = c := by
  simp only [render, bind_ok, Render.evalTest_ok]
  constructor
  · rintro ⟨t, _, ⟨ht, rfl⟩, h⟩
    cases t
    · simp_all
    · obtain ⟨a, hbody, rfl⟩ := bind_pure_ok.1 h
      exact ⟨ht, a, hbody⟩
  · rintro ⟨ht, h⟩
    refine ⟨b, c, ⟨ht, rfl⟩, ?_⟩
    cases b
    · simp_all
    · obtain ⟨a, hbody⟩ := h
      exact bind_pure_ok.2 ⟨a, hbody, rfl⟩

theorem renderWhens_nil_ok : run (renderWhens []) c = (.ok b, d) ↔ b = false ∧ d = c := by
  simp [renderWhens, eq_comm]

theorem renderWhens_cons_ok {test : Expr} {body : Node} {whens : List (Expr × Node)} :
    run (renderWhens ((test, body) :: whens)) c = (.ok b, d) ↔
      ∃ t, Expr.evalTest c.bindings test = .ok t ∧
        if t then b = true ∧ ∃ a, run body.render c = (.ok a, d) else run (renderWhens whens) c = (.ok b, d) := by
  simp only [renderWhens, bind_ok, Render.evalTest_ok]
  constructor
  · rintro ⟨t, _, ⟨ht, rfl⟩, h⟩
    refine ⟨t, ht, ?_⟩
    cases t
    · simpa using h
    · obtain ⟨a, hbody, rfl⟩ := bind_pure_ok.1 h
      exact ⟨rfl, a, hbody⟩
  · rintro ⟨t, ht, h⟩
    refine ⟨t, c, ⟨ht, rfl⟩, ?_⟩
    cases t
    · simpa using h
    · obtain ⟨rfl, a, hbody⟩ := h
      exact bind_pure_ok.2 ⟨a, hbody, rfl⟩

theorem renderWhens_false {whens : List (Expr × Node)} (h : run (renderWhens whens) c = (.ok false, d)) : d = c := by
  induction whens with
  | nil => exact (renderWhens_nil_ok.1 h).2
  | cons w whens ih =>
    obtain ⟨t, -, h⟩ := renderWhens_cons_ok.1 h
    cases t
    · exact ih (by simpa using h)
    · simp at h

theorem renderOtherwise_none_ok : run (renderOtherwise none) c = (.ok b, d) ↔ b = false ∧ d = c := by
  simp [renderOtherwise, eq_comm]

theorem renderOtherwise_some_ok {body : Node} :
    run (renderOtherwise (some body)) c = (.ok b, d) ↔ b = true ∧ ∃ a, run body.render c = (.ok a, d) := by
  rw [renderOtherwise, bind_pure_ok]
  simp [and_comm]

theorem render_choose_ok {whens : List (Expr × Node)} {otherwise : Option Node} :
    run (Node.choose whens otherwise).render c = (.ok b, d) ↔
      (b = true ∧ run (renderWhens whens) c = (.ok true, d)) ∨
        (run (renderWhens whens) c = (.ok false, c) ∧ run (renderOtherwise otherwise) c = (.ok b, d)) := by
  simp only [render, bind_ok]
  constructor
  · rintro ⟨found, e, hw, h⟩
    cases found
    · obtain rfl := renderWhens_false hw
      exact .inr ⟨hw, by simpa using h⟩
    · simp only [if_true, run_pure, Prod.mk.injEq, Except.ok.injEq] at h
      obtain ⟨rfl, rfl⟩ := h
      exact .inl ⟨rfl, hw⟩
  · rintro (⟨rfl, hw⟩ | ⟨hw, h⟩)
    · exact ⟨true, d, hw, by simp⟩
    · exact ⟨false, c, hw, by simpa using h⟩

theorem render_clause_ok {kind : ClauseKind} {cl : Clause} {body : Node} :
    run (Node.clause kind cl body).render c = (.ok b, d) ↔
      ∃ a e, run body.render { c with fragments := [] } = (.ok a, e) ∧ b = (cl.wrap? (" ".intercalate e.fragments)).isSome ∧
        d = { e with fragments := c.fragments ++ (cl.wrap? (" ".intercalate e.fragments)).toList } := by
  rw [render]
  exact Render.clause_ok

theorem render_bind_ok {name : String} {e : Expr} :
    run (Node.bind name e).render c = (.ok b, d) ↔
      b = true ∧ ∃ v, run (Render.eval? e) c = (.ok v, c) ∧ d = c.bind name (v.getD .null) := by
  simp only [render, bind_ok, Render.run_bindName, run_pure]
  constructor
  · rintro ⟨v, e, hv, _, _, h, hb⟩
    obtain rfl := (Render.eval?_ok.1 hv).1
    simp only [Prod.mk.injEq] at h hb
    obtain ⟨-, rfl⟩ := h
    exact ⟨by simpa [eq_comm] using hb.1, v, hv, hb.2.symm⟩
  · rintro ⟨rfl, v, hv, rfl⟩
    exact ⟨v, c, hv, _, _, rfl, rfl⟩

end Node

end SqlTemplate
