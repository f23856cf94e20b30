import Mathlib.Data.List.Forall2
import SqlTemplate.Mapping.Basic
import SqlTemplate.Proofs.Computation

/-! # The values of the markers

Values are resolved one mapping at a time, and the first path that leads nowhere fails them all.
-/

namespace SqlTemplate

open SqlTemplate.Computation

theorem Bindings.get?_initial (parameter : Value) (databaseId : Option String) (name : String) :
    Dict.get? (Bindings.initial parameter databaseId) name =
      if name = parameterKey then some parameter
      else if name = databaseIdKey then some ((databaseId.map Value.string).getD .null)
      else none := by
  have hkeys : parameterKey ≠ databaseIdKey := by decide
  simp only [initial, Dict.ofList, Dict.union, List.foldl_cons, List.foldl_nil, Dict.get?_insert, Dict.get?_nil]
  split_ifs with h₁ h₂ h₂
  · exact absurd (h₂.symm.trans h₁) hkeys
  · rfl
  · rfl
  · rfl

namespace BoundSql

variable {b b' : BoundSql} {parameter : Value}

theorem resolve_output {m : ParameterMapping} (h : m.mode = .output) : b.resolve parameter m = .ok .null := by
  rw [resolve, if_pos h]

theorem resolve_input_ok {m : ParameterMapping} (h : m.mode ≠ .output) {v : Value} :
    b.resolve parameter m = .ok v ↔ b.find? parameter (Path.parse m.property) = some v := by
  rw [resolve, if_neg h]
  cases b.find? parameter (Path.parse m.property) <;> simp

/-- Two sources of values that agree on a path agree on its mapping. -/
theorem resolve_congr {m n : ParameterMapping} (hproperty : m.property = n.property) (hmode : m.mode = n.mode)
    (h : m.mode = .output ∨
      b.find? parameter (Path.parse m.property) = b'.find? parameter (Path.parse m.property)) {v : Value} :
    b.resolve parameter m = .ok v ↔ b'.resolve parameter n = .ok v := by
  by_cases ho : m.mode = .output
  · rw [resolve_output ho, resolve_output (hmode ▸ ho)]
  · rw [resolve_input_ok ho, resolve_input_ok (hmode ▸ ho), ← hproperty, h.resolve_left ho]

theorem resolveEach_ok {ms : List ParameterMapping} {values : List Value} :
    b.resolveEach parameter ms = .ok values ↔ List.Forall₂ (fun m v => b.resolve parameter m = .ok v) ms values := by
  induction ms generalizing values with
  | nil =>
    rw [resolveEach, List.forall₂_nil_left_iff, Except.ok.injEq]
    exact eq_comm
  | cons m ms ih =>
    rw [resolveEach, List.forall₂_cons_left_iff]
    constructor
    · intro h
      obtain ⟨v, hv, h⟩ := except_bind_ok.1 h
      obtain ⟨rest, hrest, h⟩ := except_bind_ok.1 h
      cases h
      exact ⟨v, rest, hv, ih.1 hrest, rfl⟩
    · rintro ⟨v, rest, hv, hrest, rfl⟩
      exact except_bind_ok.2 ⟨v, hv, except_bind_ok.2 ⟨rest, ih.2 hrest, rfl⟩⟩

theorem resolveAll_ok {values : List Value} :
    b.resolveAll parameter = .ok values ↔
      List.Forall₂ (fun m v => b.resolve parameter m = .ok v) b.mappings values :=
  resolveEach_ok

theorem resolve_none {m : ParameterMapping} :
    (b.resolve parameter m).toOption = none ↔
      m.mode ≠ .output ∧ b.find? parameter (Path.parse m.property) = none := by
  by_cases ho : m.mode = .output
  · simp [resolve_output ho, ho, Except.toOption]
  · rw [resolve, if_neg ho]
    cases b.find? parameter (Path.parse m.property) <;> simp [ho, Except.toOption]

theorem resolveEach_none {ms : List ParameterMapping} :
    (b.resolveEach parameter ms).toOption = none ↔ ∃ m ∈ ms, (b.resolve parameter m).toOption = none := by
  induction ms with
  | nil => simp [resolveEach, Except.toOption]
  | cons m ms ih =>
    rw [resolveEach, List.exists_mem_cons_iff, ← ih]
    rcases b.resolve parameter m with _ | v
    · simp [bind, Except.bind, Except.toOption]
    · rcases b.resolveEach parameter ms with _ | rest <;> simp [bind, Except.bind, Except.toOption]

/-- A path that is read leads nowhere. -/
def Misses (b : BoundSql) (parameter : Value) : Prop :=
  ∃ m ∈ b.mappings, m.mode ≠ .output ∧ b.find? parameter (Path.parse m.property) = none

theorem resolveAll_none : (b.resolveAll parameter).toOption = none ↔ b.Misses parameter := by
  rw [resolveAll, resolveEach_none, Misses]
  simp only [resolve_none]

end BoundSql

end SqlTemplate
