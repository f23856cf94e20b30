import SqlTemplate.Engine
import SqlTemplate.Proofs.Computation

/-! # What a successful compilation or binding has done -/

namespace SqlTemplate

/-- What was extracted ahead of time, if the statement is static. -/
def Source.fixed? : Source → Option MarkedSql
  | .fixed marked => some marked
  | .dynamic _ _ => none

namespace Engine

open SqlTemplate.Computation

variable {e : Engine} {r r' : Registry}

theorem render_ok {root : Node} {parameter : Value} {sql : String} {bindings : Bindings} :
    e.render root parameter = .ok (sql, bindings) ↔
      ∃ a d, run root.render (Context.initial parameter e.databaseId) = (.ok a, d) ∧ sql = e.finish d.sql ∧
        bindings = d.bindings := by
  unfold render
  simp only [run]
  rcases root.render (Context.initial parameter e.databaseId) with ⟨_ | a, d⟩
  · simp [Except.map]
  · simp only [Except.map, Except.ok.injEq, Prod.mk.injEq]
    constructor
    · rintro ⟨rfl, rfl⟩
      exact ⟨a, d, ⟨rfl, rfl⟩, rfl, rfl⟩
    · rintro ⟨_, _, ⟨rfl, rfl⟩, rfl, rfl⟩
      exact ⟨rfl, rfl⟩

/-- A statement is extracted when it is compiled if its template is static, and only then. -/
theorem compile_ok {element : Element} {type : ValueType} {source : Source} (h : run (e.compile element type) r = (.ok source, r')) :
    ∃ t, Template.ofElement element = .ok t ∧
      ((t.dynamic = true ∧ source = .dynamic t.root type) ∨
        t.dynamic = false ∧ ∃ sql bindings marked, source = .fixed marked ∧ e.render t.root .null = .ok (sql, bindings) ∧
          run (e.extract sql type []) r = (.ok marked, r')) := by
  unfold compile at h
  obtain ⟨t, s, ht, hrest⟩ := bind_ok.1 h
  obtain ⟨ht, hs⟩ := ofExcept_ok.1 ht
  rw [hs] at hrest
  refine ⟨t, mapError_ok.1 ht, ?_⟩
  cases hd : t.dynamic with
  | true =>
    rw [if_pos hd, run_pure, ok_inj] at hrest
    exact .inl ⟨rfl, hrest.1.symm⟩
  | false =>
    rw [if_neg (by simp [hd])] at hrest
    obtain ⟨⟨sql, bindings⟩, u, hr, hrest⟩ := bind_ok.1 hrest
    obtain ⟨hr, hu⟩ := ofExcept_ok.1 hr
    obtain ⟨marked, hm, hfixed⟩ := bind_pure_ok.1 hrest
    exact .inr ⟨rfl, sql, bindings, marked, hfixed, hr, hu ▸ hm⟩

theorem compile_fixed {element : Element} {type : ValueType} {marked : MarkedSql}
    (h : run (e.compile element type) r = (.ok (.fixed marked), r')) :
    ∃ t sql bindings, Template.ofElement element = .ok t ∧ t.dynamic = false ∧ e.render t.root .null = .ok (sql, bindings) ∧
      run (e.extract sql type []) r = (.ok marked, r') := by
  obtain ⟨t, ht, ⟨-, hsource⟩ | ⟨hd, sql, bindings, _, hsource, hr, hm⟩⟩ := compile_ok h
  · cases hsource
  · cases hsource
    exact ⟨t, sql, bindings, ht, hd, hr, hm⟩

theorem compile_dynamic {element : Element} {type type' : ValueType} {root : Node}
    (h : run (e.compile element type) r = (.ok (.dynamic root type'), r')) :
    ∃ t, Template.ofElement element = .ok t ∧ t.root = root := by
  obtain ⟨t, ht, ⟨-, hsource⟩ | ⟨-, _, _, _, hsource, -⟩⟩ := compile_ok h
  · cases hsource
    exact ⟨t, ht, rfl⟩
  · cases hsource

theorem compile_of_fixed? {element : Element} {type : ValueType} {marked : MarkedSql}
    (h : (run (e.compile element type) r).1.toOption.bind Source.fixed? = some marked) :
    run (e.compile element type) r = (.ok (.fixed marked), (run (e.compile element type) r).2) := by
  obtain ⟨source, hsource, hfixed⟩ := Option.bind_eq_some_iff.1 h
  rw [run_of_toOption hsource]
  cases source with
  | fixed marked' =>
    cases hfixed
    rfl
  | dynamic root type => cases hfixed

theorem bind_fixed_ok {marked : MarkedSql} {parameter : Value} {b : BoundSql} :
    run (e.bind (.fixed marked) parameter) r = (.ok b, r') ↔ b = ⟨marked, []⟩ ∧ r' = r := by
  rw [bind, run_pure, ok_inj, eq_comm, eq_comm (a := r)]

theorem bind_dynamic_ok {root : Node} {type : ValueType} {parameter : Value} {b : BoundSql} :
    run (e.bind (.dynamic root type) parameter) r = (.ok b, r') ↔
      ∃ sql, e.render root parameter = .ok (sql, b.additional) ∧
        run (e.extract sql (declaredType type parameter) b.additional) r = (.ok b.toMarkedSql, r') := by
  rw [bind]
  constructor
  · intro h
    obtain ⟨⟨sql, bindings⟩, s, hr, hrest⟩ := bind_ok.1 h
    obtain ⟨hr, hs⟩ := ofExcept_ok.1 hr
    obtain ⟨m, hm, rfl⟩ := bind_pure_ok.1 hrest
    exact ⟨sql, hr, hs ▸ hm⟩
  · rintro ⟨sql, hr, hm⟩
    exact bind_ok.2 ⟨_, _, ofExcept_ok.2 ⟨hr, rfl⟩, bind_pure_ok.2 ⟨_, hm, rfl⟩⟩

end Engine

end SqlTemplate
