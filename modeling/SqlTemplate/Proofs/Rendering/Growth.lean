import SqlTemplate.Proofs.Rendering.Closure
import SqlTemplate.Proofs.Rendering.Turn

/-! # What no rendering takes back

A rendering may fail at any depth, and then the context stays as it was at that point. It has still only added to the fragments,
to the counter and to the names that are bound. A clause or a loop writes all of its text at once or not at all.
-/

namespace SqlTemplate

open SqlTemplate.Computation

/-- Nothing is taken back. -/
structure Grows (c d : Context) : Prop where
  fragments : c.fragments <+: d.fragments
  counter : c.counter ≤ d.counter
  bound : ∀ name, Dict.contains c.bindings name → Dict.contains d.bindings name

/-- Nothing is taken back and nothing is written. -/
structure Silent (c d : Context) : Prop extends Grows c d where
  unwritten : d.fragments = c.fragments

instance : IsPreorder Context Grows where
  refl _ := ⟨List.prefix_refl _, Nat.le_refl _, fun _ h => h⟩
  trans _ _ _ h h' :=
    ⟨h.fragments.trans h'.fragments, Nat.le_trans h.counter h'.counter, fun name hc => h'.bound name (h.bound name hc)⟩

instance : IsPreorder Context Silent where
  refl c := ⟨Std.Refl.refl c, rfl⟩
  trans _ _ _ h h' := ⟨IsTrans.trans _ _ _ h.toGrows h'.toGrows, h'.unwritten.trans h.unwritten⟩

theorem Silent.grows {α : Type} {r : Render α} (h : Moves Silent r) : Moves Grows r := fun c => (h c).toGrows

theorem Dict.contains_insert {α : Type} {d : Dict α} {k : String} (h : Dict.contains d k) (key : String) (value : α) :
    Dict.contains (Dict.insert key value d) k := by
  unfold Dict.contains at h ⊢
  rw [Dict.get?_insert]
  split
  · rfl
  · exact h

theorem bind_silent (name : String) (v : Value) (c : Context) : Silent c (c.bind name v) :=
  ⟨⟨List.prefix_refl _, Nat.le_refl _, fun _ h => Dict.contains_insert h name v⟩, rfl⟩

namespace Render

variable {R : Context → Context → Prop} [IsPreorder Context R]

theorem eval_moves (e : Expr) : Moves R (eval e) := .bind .get fun _ => .ofExcept _

theorem eval?_moves (e : Expr) : Moves R (eval? e) := by
  refine .bind .get fun c => ?_
  split
  · exact .pure _
  · exact .pure _
  · exact .throw _

theorem append_grows (s : String) : Moves Grows (append s) :=
  fun _ => ⟨List.prefix_append _ _, Nat.le_refl _, fun _ h => h⟩

theorem next_silent : Moves Silent next := fun _ => ⟨⟨List.prefix_refl _, Nat.le_succ _, fun _ h => h⟩, rfl⟩

theorem bindScalar_silent : Moves Silent bindScalar := by
  intro c
  unfold bindScalar
  rw [run_modify]
  dsimp only
  split
  · exact Std.Refl.refl c
  · split
    · exact bind_silent _ _ c
    · exact Std.Refl.refl c

theorem segments_silent (parts : List Segment) : Moves Silent (segments parts) :=
  .bind bindScalar_silent fun _ => .bind .get fun _ => .ofExcept _

/-- What is written into a buffer of its own is not there after an error either. -/
theorem capture_silent {α : Type} {r : Render α} (h : Moves Grows r) : Moves Silent (capture r) := by
  intro c
  have hinner := h { c with fragments := [] }
  exact ⟨⟨List.prefix_refl _, hinner.counter, hinner.bound⟩, rfl⟩

/-! ## Writing once -/

/-- All of the text is written as one fragment, which is there exactly if the rendering says so. -/
def WritesOnce (r : Render Bool) : Prop :=
  ∀ c, ∃ text : Option String, (run r c).2.fragments = c.fragments ++ text.toList ∧ (text.isSome ↔ (run r c).1 = .ok true)

namespace WritesOnce

theorem nothing : WritesOnce (pure false) := by
  intro c
  exact ⟨none, by simp⟩

theorem throw (e : Error) : WritesOnce (throw e) := by
  intro c
  exact ⟨none, by simp⟩

theorem append (s : String) : WritesOnce (Render.append s >>= fun _ => pure true) := by
  intro c
  rw [run_bind, run_append]
  exact ⟨some s, by simp [Context.append]⟩

theorem bind {α : Type} {x : Render α} {f : α → Render Bool} (hx : Moves Silent x) (hf : ∀ a, WritesOnce (f a)) :
    WritesOnce (x >>= f) := by
  intro c
  have hsilent := hx c
  rw [run_bind]
  rcases hr : run x c with ⟨_ | a, d⟩ <;> rw [hr] at hsilent
  · exact ⟨none, by simpa using hsilent.unwritten⟩
  · obtain ⟨text, hwritten, hsome⟩ := hf a d
    exact ⟨text, by rw [hwritten, hsilent.unwritten], hsome⟩

theorem written {r : Render Bool} (h : WritesOnce r) {c : Context} (htrue : (run r c).1 = .ok true) :
    ∃ text, (run r c).2.fragments = c.fragments ++ [text] := by
  obtain ⟨text, hwritten, hsome⟩ := h c
  obtain ⟨text, rfl⟩ := Option.isSome_iff_exists.1 (hsome.2 htrue)
  exact ⟨text, hwritten⟩

theorem unwritten {r : Render Bool} (h : WritesOnce r) {c : Context} (hne : (run r c).1 ≠ .ok true) :
    (run r c).2.fragments = c.fragments := by
  obtain ⟨text, hwritten, hsome⟩ := h c
  have hnone : text = none := by
    simpa [← hsome] using hne
  simpa [hnone] using hwritten

end WritesOnce

theorem clause_writesOnce (cl : Clause) {body : Render Bool} (h : Moves Grows body) : WritesOnce (clause cl body) := by
  refine .bind (capture_silent h) fun text => ?_
  split
  · exact .append _
  · exact .nothing

end Render

namespace Loop

variable {l : Loop} {body : Render Bool}

theorem bindEntry_silent (n : Nat) (v : Value) (name : Option String) : Moves Silent (bindEntry n v name) := by
  cases name with
  | none => exact .pure _
  | some name => exact .bind (bind_silent _ v) fun _ => bind_silent name v

theorem iterate_silent (hbody : Moves Grows body) (entries : List (Value × Value)) : Moves Silent (l.iterate body entries) := by
  induction entries with
  | nil => exact .pure _
  | cons entry entries ih =>
    obtain ⟨key, value⟩ := entry
    refine .bind Render.next_silent fun n => ?_
    refine .bind (bindEntry_silent n key l.index) fun _ => ?_
    refine .bind (bindEntry_silent n value l.item) fun _ => ?_
    exact .bind (Render.capture_silent hbody) fun _ => .bind ih fun _ => .pure _

/-- A name of the loop is given back if it was bound before. -/
theorem leave_grows {c d : Context} (h : Grows c d) : Grows c (l.leave c d) := by
  refine ⟨by simpa using h.fragments, by simpa using h.counter, ?_⟩
  intro name hname
  unfold Dict.contains
  rw [get?_leave]
  split
  · exact hname
  · exact h.bound name hname

theorem keeping_grows {α : Type} {r : Render α} (h : Moves Grows r) : Moves Grows (Render.keeping l.names r) :=
  fun c => leave_grows (h c)

theorem keeping_silent {α : Type} {r : Render α} (h : Moves Silent r) : Moves Silent (Render.keeping l.names r) := fun c =>
  ⟨leave_grows (h c).toGrows, (l.leave_fragments c (run r c).2).trans (h c).unwritten⟩

theorem render_writesOnce (hbody : Moves Grows body) : Render.WritesOnce (l.render body) := by
  refine .bind (Render.eval?_moves _) fun v => ?_
  split
  · exact .nothing
  · exact .nothing
  · split
    · exact .throw _
    · exact .nothing
    · refine .bind (keeping_silent (iterate_silent hbody _)) fun bodies => ?_
      split
      · exact .nothing
      · exact .append _

end Loop

theorem Render.grows_closed : Closed (Moves Grows) where
  pure := .pure
  bind := .bind
  eval := eval_moves
  eval? := eval?_moves
  segments parts := Silent.grows (segments_silent parts)
  append := append_grows
  bindName name v := Silent.grows (bind_silent name v)
  next := Silent.grows next_silent
  capture h := Silent.grows (capture_silent h)
  keeping _ := Loop.keeping_grows
  notIterable _ _ := .throw _

namespace Node

theorem render_grows (n : Node) : Moves Grows n.render := render_closed Render.grows_closed n

/-! ## What is left at the end -/

/-- Clauses and loops write into a buffer of their own first. -/
def isBuffered : Node → Bool
  | .clause .. | .loop .. => true
  | _ => false

theorem render_writesOnce {n : Node} (h : n.isBuffered) : Render.WritesOnce n.render := by
  cases n with
  | clause kind cl body => exact Render.clause_writesOnce cl (render_grows body)
  | loop l body => exact Loop.render_writesOnce (render_grows body)
  | _ => cases h

/-- The answer is false only for a test that fails, a choice without a branch, or a buffer that comes to nothing. -/
theorem render_false {n : Node} {c d : Context} (h : run n.render c = (.ok false, d)) : d.fragments = c.fragments := by
  cases n with
  | text s => exact absurd (render_text_ok.1 h).1 (by simp)
  | substituted source segments => exact absurd (render_substituted_ok.1 h).1 (by simp)
  | sequence nodes => exact absurd (render_sequence_ok.1 h).1 (by simp)
  | bind name value => exact absurd (render_bind_ok.1 h).1 (by simp)
  | conditional test body =>
    obtain ⟨-, rfl⟩ := render_conditional_ok.1 h
    rfl
  | choose whens otherwise =>
    obtain ⟨hfalse, -⟩ | ⟨-, hd⟩ := render_choose_ok.1 h
    · cases hfalse
    · cases otherwise with
      | none => rw [(renderOtherwise_none_ok.1 hd).2]
      | some body => exact absurd (renderOtherwise_some_ok.1 hd).1 (by simp)
  | clause kind cl body =>
    have hunwritten := (Render.clause_writesOnce cl (render_grows body)).unwritten (c := c)
    rw [← render, h] at hunwritten
    exact hunwritten (by simp)
  | loop l body =>
    have hunwritten := (Loop.render_writesOnce (l := l) (render_grows body)).unwritten (c := c)
    rw [← render, h] at hunwritten
    exact hunwritten (by simp)

/-- How a rendering of the node may end, with an answer or with an error. -/
structure Outcome (n : Node) (c : Context) (result : Except Error Bool) (d : Context) : Prop extends Grows c d where
  nothing : result = .ok false → d.fragments = c.fragments
  once : n.isBuffered → result = .ok true → ∃ text, d.fragments = c.fragments ++ [text]
  failed : n.isBuffered → ∀ e, result = .error e → d.fragments = c.fragments

/-- However a rendering ends, it has taken nothing back. A clause or a loop has then written one fragment or, after an error as
well, none. -/
theorem render_outcome (n : Node) (c : Context) : n.Outcome c (run n.render c).1 (run n.render c).2 where
  toGrows := render_grows n c
  nothing hfalse := render_false (Prod.ext hfalse rfl)
  once hbuffered htrue := (render_writesOnce hbuffered).written htrue
  failed hbuffered e herror := (render_writesOnce hbuffered).unwritten (by simp [herror])

end Node

end SqlTemplate
