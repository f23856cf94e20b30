import SqlTemplate.Proofs.Catalog.Change
import SqlTemplate.Proofs.Engine.Success

/-! # What is compiled is kept up to date

What `source` gives was compiled at some point of the run, of the statement that is still registered. It is what compiling now
would give, unless a fragment that the statement reaches was overridden since: overriding a fragment, unlike replacing a
statement, leaves what is compiled as it is.
-/

namespace SqlTemplate

open SqlTemplate.Computation

namespace Catalog

/-! ## Compiling -/

/-- Nothing is added to what is compiled but what compiling afresh gives. -/
structure Compiles (c d : Catalog) : Prop where
  same : Same c d
  sources : c.Indexed → ∀ id source, Dict.get? d.sources id = some source → Dict.get? c.sources id = some source ∨
    ∃ s, Dict.get? c.statements id = some s ∧ c.fresh s = .ok source

theorem Same.indexed {c d : Catalog} (h : Same c d) (hc : c.Indexed) : d.Indexed :=
  ⟨h.statements ▸ hc.sorted, h.statements ▸ hc.keyed⟩

instance : IsPreorder Catalog Compiles where
  refl c := ⟨.refl c, fun _ _ _ h => .inl h⟩
  trans c d e h h' := by
    refine ⟨h.same.trans h'.same, fun hc id source hs => ?_⟩
    rcases h'.sources (h.same.indexed hc) id source hs with hd | ⟨s, hget, hfresh⟩
    · exact h.sources hc id source hd
    · exact .inr ⟨s, h.same.statements ▸ hget, (h.same.fresh s).trans hfresh⟩

theorem run_compile (s : Statement) (c : Catalog) :
    (run (compile s) c).1 = c.fresh s ∧ ∃ r, c.registry.Agrees r ∧
      (run (compile s) c).2 =
        { c with registry := r, sources := (c.fresh s).toOption.elim c.sources (Dict.insert s.id · c.sources) } := by
  unfold compile fresh
  rw [run_bind, run_get]
  dsimp only
  rw [run_bind, run_ofExcept]
  cases c.expanded s with
  | error e => exact ⟨rfl, c.registry, .refl _, rfl⟩
  | ok body =>
    have hagrees := (c.engine.compile_steady body s.parameterType (.refl c.registry)).2
    have hextract : run (extracting (c.engine.compile body s.parameterType)) c =
        ((run (c.engine.compile body s.parameterType) c.registry).1,
          { c with registry := (run (c.engine.compile body s.parameterType) c.registry).2 }) := rfl
    dsimp only
    rw [run_bind, hextract]
    cases hresult : (run (c.engine.compile body s.parameterType) c.registry).1 with
    | error e =>
      simp only [Except.bind, hresult]
      exact ⟨trivial, _, hagrees, rfl⟩
    | ok source =>
      simp only [Except.bind, hresult]
      exact ⟨rfl, _, hagrees, rfl⟩

theorem source_error {c : Catalog} {id : String} {e : Error} (h : c.statement id = .error e) :
    run (source id) c = (.error e, c) := by
  unfold source
  rw [run_bind, run_get]
  dsimp only
  rw [run_bind, run_ofExcept, h]

theorem source_ok {c : Catalog} {id : String} {s : Statement} (h : c.statement id = .ok s) :
    run (source id) c = match Dict.get? c.sources s.id with
      | some kept => (.ok kept, c)
      | none => run (compile s) c := by
  unfold source
  rw [run_bind, run_get]
  dsimp only
  rw [run_bind, run_ofExcept, h]
  dsimp only
  cases Dict.get? c.sources s.id <;> rfl

theorem source_compiles (id : String) : Moves Compiles (source id) := by
  intro c
  cases h : c.statement id with
  | error e =>
    rw [source_error h]
    exact Std.Refl.refl c
  | ok s =>
    rw [source_ok h]
    split
    · exact Std.Refl.refl c
    · obtain ⟨-, r, hagrees, hstate⟩ := run_compile s c
      rw [hstate]
      refine ⟨⟨rfl, rfl, rfl, hagrees⟩, fun hc other source hs => ?_⟩
      cases hfresh : c.fresh s with
      | error e => exact .inl (by simpa [hfresh, Except.toOption] using hs)
      | ok compiled =>
        rw [hfresh] at hs
        change Dict.get? (Dict.insert s.id compiled c.sources) other = some source at hs
        rw [Dict.get?_insert] at hs
        split at hs
        · rename_i hother
          cases hs
          exact .inr ⟨s, hother ▸ hc.statement h, hfresh⟩
        · exact .inl hs

theorem run_extracting {α : Type} (x : Extraction α) (c : Catalog) :
    run (extracting x) c = ((run x c.registry).1, { c with registry := (run x c.registry).2 }) := rfl

theorem bind_compiles (id : String) (parameter : Value) : Moves Compiles (bind id parameter) := by
  unfold bind
  refine .bind (source_compiles id) fun found => ?_
  intro c
  rw [run_bind, run_get]
  dsimp only
  rw [run_extracting]
  exact ⟨⟨rfl, rfl, rfl, (c.engine.bind_steady found parameter (.refl c.registry)).2⟩, fun _ _ _ h => .inl h⟩

theorem compileEach_cons (id : String) (ids : List String) (c : Catalog) :
    (compileEach (id :: ids) c).2 = (compileEach ids (run (source id) c).2).2 := by
  rw [compileEach, state_bind, state_bind]
  cases ((source id).run c).1 <;> rfl

theorem compileEach_compiles (ids : List String) (c : Catalog) : Compiles c (compileEach ids c).2 := by
  induction ids generalizing c with
  | nil => exact Std.Refl.refl c
  | cons id ids ih =>
    rw [compileEach_cons]
    exact IsTrans.trans _ _ _ (source_compiles id c) (ih _)

end Catalog

end SqlTemplate
