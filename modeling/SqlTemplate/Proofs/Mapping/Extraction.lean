import Mathlib.Data.List.Forall2
import SqlTemplate.Mapping.Extract
import SqlTemplate.Proofs.Computation

/-! # What extraction takes from the text alone

The property of a mapping, its mode and its SQL type depend on the content of its placeholder and on nothing else. Only the
type and the converter depend on the parameter and its bindings.
-/

namespace SqlTemplate

open SqlTemplate.Computation

/-- Lists that both go along with a third go along with each other. -/
theorem forall₂_join {α β γ : Type} {R : α → β → Prop} {S : α → γ → Prop} {as : List α} {bs : List β} {cs : List γ}
    (h : List.Forall₂ R as bs) (h' : List.Forall₂ S as cs) : List.Forall₂ (fun b c => ∃ a, R a b ∧ S a c) bs cs := by
  induction h generalizing cs with
  | nil =>
    cases h'
    exact .nil
  | cons hr _ ih =>
    cases h' with
    | cons hs hrest => exact .cons ⟨_, hr, hs⟩ (ih hrest)

theorem exists_of_forall₂ {α β : Type} {R : α → β → Prop} {as : List α} {bs : List β} (h : List.Forall₂ R as bs) :
    ∀ a ∈ as, ∃ b, R a b := by
  induction h with
  | nil => simp
  | cons hr _ ih => exact List.forall_mem_cons.2 ⟨⟨_, hr⟩, ih⟩

namespace Scope

variable {s : Scope} {r r' : Registry}

/-- The parts of a mapping that its placeholder decides. -/
def Reads (content : String) (m : ParameterMapping) : Prop :=
  ∃ p, Placeholder.parse content = .ok p ∧ m.property = p.property ∧ sqlTypeOf content p = .ok m.sqlType ∧
    modeOf content p = .ok m.mode

theorem mapping_ok {content : String} {m : ParameterMapping} (h : run (s.mapping content) r = (.ok m, r')) :
    Reads content m := by
  unfold mapping at h
  obtain ⟨p, _, hp, h⟩ := bind_ok.1 h
  obtain ⟨sqlType, _, hs, h⟩ := bind_ok.1 h
  obtain ⟨_, _, -, h⟩ := bind_ok.1 h
  obtain ⟨_, _, -, h⟩ := bind_ok.1 h
  obtain ⟨mode, _, hm, h⟩ := bind_ok.1 h
  obtain ⟨_, _, -, h⟩ := bind_ok.1 h
  obtain ⟨_, -, rfl⟩ := bind_pure_ok.1 h
  exact ⟨p, mapError_ok.1 (ofExcept_ok.1 hp).1, rfl, (ofExcept_ok.1 hs).1, (ofExcept_ok.1 hm).1⟩

/-- Mappings stand in the order of their placeholders. -/
theorem mappings_ok {contents : List String} {ms : List ParameterMapping}
    (h : run (s.mappings contents) r = (.ok ms, r')) : List.Forall₂ Reads contents ms := by
  induction contents generalizing r ms with
  | nil =>
    obtain ⟨rfl, -⟩ := ok_inj.1 h
    exact .nil
  | cons content contents ih =>
    obtain ⟨m, _, hm, h⟩ := bind_ok.1 h
    obtain ⟨rest, hrest, rfl⟩ := bind_pure_ok.1 h
    exact .cons (mapping_ok hm) (ih hrest)

theorem extract_ok {style : MarkerStyle} {sql : String} {marked : MarkedSql}
    (h : run (s.extract style sql) r = (.ok marked, r')) :
    marked.sql = style.mark sql ∧ List.Forall₂ Reads (placeholder.tokens sql) marked.mappings := by
  obtain ⟨ms, hms, rfl⟩ := bind_pure_ok.1 h
  exact ⟨rfl, mappings_ok hms⟩

theorem Reads.same {content : String} {m n : ParameterMapping} (hm : Reads content m) (hn : Reads content n) :
    m.property = n.property ∧ m.mode = n.mode := by
  obtain ⟨p, hp, hprop, -, hmode⟩ := hm
  obtain ⟨q, hq, hprop', -, hmode'⟩ := hn
  obtain rfl : p = q := by simpa [hp] using hq
  exact ⟨hprop.trans hprop'.symm, by simpa [hmode] using hmode'⟩

/-- Two extractions from one text agree on what each mapping binds and in which direction. -/
theorem reads_same {contents : List String} {ms ns : List ParameterMapping} (hm : List.Forall₂ Reads contents ms)
    (hn : List.Forall₂ Reads contents ns) :
    List.Forall₂ (fun m n => m.property = n.property ∧ m.mode = n.mode) ms ns :=
  (forall₂_join hm hn).imp fun _ _ ⟨_, h, h'⟩ => h.same h'

theorem properties_same {ms ns : List ParameterMapping}
    (h : List.Forall₂ (fun m n : ParameterMapping => m.property = n.property ∧ m.mode = n.mode) ms ns) :
    ms.map (·.property) = ns.map (·.property) := by
  induction h with
  | nil => rfl
  | cons h _ ih => simp [h.1, ih]

end Scope

end SqlTemplate
