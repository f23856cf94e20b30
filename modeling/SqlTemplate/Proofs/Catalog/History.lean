import Mathlib.Data.List.Induction
import SqlTemplate.Proofs.Catalog.Compiled

/-! # Runs of a catalog

A run is a list of calls, whatever they answer. What is compiled at its end is traced back to the call that compiled it.
-/

namespace SqlTemplate

open SqlTemplate.Computation

namespace Catalog

inductive Call
  | add (text : String)
  | source (id : String)
  | bind (id : String) (parameter : Value)
  | compileAll

namespace Call

def isAdd : Call → Bool
  | .add _ => true
  | _ => false

/-- The catalog after a call. A call that fails may change it too. -/
def apply (c : Catalog) : Call → Catalog
  | .add text => (run (addMapper text) c).2
  | .source id => (run (Catalog.source id) c).2
  | .bind id parameter => (run (Catalog.bind id parameter) c).2
  | .compileAll => (Catalog.compileAll c).2

theorem apply_compiles {call : Call} (h : call.isAdd = false) (c : Catalog) : Compiles c (call.apply c) := by
  cases call with
  | add text => cases h
  | source id => exact source_compiles id c
  | bind id parameter => exact bind_compiles id parameter c
  | compileAll => exact compileEach_compiles c.ids c

theorem apply_later (call : Call) (c : Catalog) : Later c (call.apply c) := by
  cases h : call.isAdd with
  | false => exact (apply_compiles h c).same.later
  | true =>
    cases call with
    | add text => exact (addMapper_loads text c).later
    | _ => cases h

theorem apply_indexed (call : Call) {c : Catalog} (hc : c.Indexed) : (call.apply c).Indexed := by
  cases h : call.isAdd with
  | false => exact (apply_compiles h c).same.indexed hc
  | true =>
    cases call with
    | add text => exact (addMapper_loads text c).indexed hc
    | _ => cases h

/-- What is compiled after a call was compiled before it of a statement that stayed, or is what the call compiled. -/
theorem apply_sources (call : Call) {c : Catalog} (hc : c.Indexed) {id : String} {source : Source}
    (hs : Dict.get? (call.apply c).sources id = some source) :
    (Dict.get? c.sources id = some source ∧ Dict.get? (call.apply c).statements id = Dict.get? c.statements id) ∨
      ∃ s, Dict.get? (call.apply c).statements id = some s ∧ c.fresh s = .ok source := by
  cases h : call.isAdd with
  | false =>
    have hcompiles := apply_compiles h c
    rw [← hcompiles.same.statements]
    exact (hcompiles.sources hc id source hs).imp_left fun hkept => ⟨hkept, rfl⟩
  | true =>
    cases call with
    | add text => exact .inl ((addMapper_loads text c).sources id source hs)
    | _ => cases h

end Call

/-- The catalog after a run. -/
def after (c : Catalog) (calls : List Call) : Catalog := calls.foldl Call.apply c

variable {c : Catalog}

theorem after_concat (c : Catalog) (calls : List Call) (call : Call) :
    c.after (calls ++ [call]) = call.apply (c.after calls) := by
  rw [after, List.foldl_append]
  rfl

theorem after_indexed (hc : c.Indexed) (calls : List Call) : (c.after calls).Indexed := by
  induction calls using List.reverseRecOn with
  | nil => exact hc
  | append_singleton calls call ih =>
    rw [after_concat]
    exact call.apply_indexed ih

theorem after_later (c : Catalog) (before rest : List Call) : Later (c.after before) (c.after (before ++ rest)) := by
  induction rest using List.reverseRecOn with
  | nil =>
    rw [List.append_nil]
    exact Std.Refl.refl _
  | append_singleton rest call ih =>
    rw [← List.append_assoc, after_concat]
    exact IsTrans.trans _ _ _ ih (call.apply_later _)

/-- Everything compiled at the end of a run was compiled at some point of it, of the statement that is still there. -/
theorem after_sources (hc : c.Indexed) (hnone : c.sources = []) (calls : List Call) {id : String} {source : Source}
    (hs : Dict.get? (c.after calls).sources id = some source) :
    ∃ before rest s, calls = before ++ rest ∧ Dict.get? (c.after calls).statements id = some s ∧
      (c.after before).fresh s = .ok source := by
  induction calls using List.reverseRecOn with
  | nil => simp [after, hnone, Dict.get?_nil] at hs
  | append_singleton calls call ih =>
    rw [after_concat] at hs ⊢
    rcases call.apply_sources (after_indexed hc calls) hs with ⟨hkept, hsame⟩ | ⟨s, hget, hfresh⟩
    · obtain ⟨before, rest, s, rfl, hget, hfresh⟩ := ih hkept
      exact ⟨before, rest ++ [call], s, List.append_assoc _ _ _, hsame.trans hget, hfresh⟩
    · exact ⟨calls, [call], s, rfl, hget, hfresh⟩

/-- Calls that only compile leave no trace in the statements and fragments. -/
theorem after_filter (c : Catalog) (calls : List Call) : Same (c.after calls) (c.after (calls.filter Call.isAdd)) := by
  induction calls using List.reverseRecOn with
  | nil => exact .refl c
  | append_singleton calls call ih =>
    rw [after_concat, List.filter_append, List.filter_singleton]
    cases h : call.isAdd with
    | false =>
      rw [cond_false, List.append_nil]
      exact (call.apply_compiles h _).same.symm.trans ih
    | true =>
      rw [cond_true, after_concat]
      cases call with
      | add text => exact (addMapper_same text ih).2
      | _ => cases h

theorem ofConfig_empty {config : Config} (h : Catalog.ofConfig config = .ok c) : c.Indexed ∧ c.sources = [] := by
  obtain ⟨engine, -, rfl⟩ := except_map_ok.1 h
  exact ⟨⟨List.Pairwise.nil, fun id s hs => by simp [Dict.get?_nil] at hs⟩, rfl⟩

theorem ofConfig_substitutions {config : Config} (h : Catalog.ofConfig config = .ok c) :
    c.engine.substitutions = config.substitutions := by
  obtain ⟨engine, hengine, rfl⟩ := except_map_ok.1 h
  obtain ⟨aliases, -, rfl⟩ := except_map_ok.1 hengine
  rfl

theorem ofConfig_without_types {config : Config} (henums : config.enums = []) (htypes : config.types = []) :
    Catalog.ofConfig config =
      .ok ⟨⟨[], config.databaseId, config.markers, config.shrink, config.substitutions⟩, .builtin config.enumStyle, [], [], []⟩ := by
  unfold Catalog.ofConfig Engine.ofConfig Config.aliases Aliases.ofDeclarations
  rw [henums, htypes, Aliases.registerRecords]
  rfl

/-! ## Answers -/

/-- What is compiled is what compiling now would give. -/
def UpToDate (c : Catalog) : Prop :=
  ∀ s source, Dict.get? c.statements s.id = some s → Dict.get? c.sources s.id = some source → c.fresh s = .ok source

/-- A catalog that is up to date answers as if nothing had been compiled. -/
theorem source_of_upToDate (hc : c.Indexed) (h : c.UpToDate) (id : String) :
    (run (source id) c).1 = (c.statement id).bind c.fresh := by
  cases hs : c.statement id with
  | error e =>
    rw [source_error hs]
    rfl
  | ok s =>
    rw [source_ok hs]
    split
    · rename_i kept hkept
      exact (h s kept (hc.statement hs) hkept).symm
    · exact (run_compile s c).1

theorem run_bind_eq (c : Catalog) (id : String) (parameter : Value) :
    (run (Catalog.bind id parameter) c).1 =
      (run (source id) c).1.bind fun found => (run (c.engine.bind found parameter) c.registry).1 := by
  have hsame := (source_compiles id c).same
  unfold Catalog.bind
  rw [run_bind]
  rcases h : run (source id) c with ⟨_ | found, d⟩ <;> rw [h] at hsame
  · rfl
  · change (run (d.engine.bind found parameter) d.registry).1 = _
    rw [← hsame.engine]
    exact (c.engine.bind_steady found parameter hsame.registry.symm).1

/-- No fragment that was there at some point of the run was overridden later. -/
def Settled (c : Catalog) (calls : List Call) : Prop :=
  ∀ before rest name, calls = before ++ rest → ¬ Overridden (c.after before) (c.after calls) name

/-- Without a configured database nothing is ever overridden. -/
theorem settled_of_databaseId (h : c.engine.databaseId = none) (calls : List Call) : c.Settled calls := by
  rintro before rest name rfl ⟨f, g, -, -, -, hsome, hid⟩
  have hengine := (after_later c [] before).engine
  rw [List.nil_append] at hengine
  rw [hid, ← hengine] at hsome
  change c.engine.databaseId.isSome = true at hsome
  rw [h] at hsome
  cases hsome

theorem Settled.filter {calls : List Call} (h : c.Settled calls) : c.Settled (calls.filter Call.isAdd) := by
  intro before rest name hsplit hover
  obtain ⟨l₁, l₂, rfl, rfl, rfl⟩ := List.filter_eq_append_iff.1 hsplit
  refine h l₁ l₂ name rfl ?_
  unfold Overridden at hover ⊢
  rwa [(after_filter c l₁).fragments, (after_filter c (l₁ ++ l₂)).fragments, (after_filter c l₁).engine]

theorem after_upToDate (hc : c.Indexed) (hnone : c.sources = []) {calls : List Call} (h : c.Settled calls) :
    (c.after calls).UpToDate := by
  intro s source hget hs
  obtain ⟨before, rest, t, hsplit, hget', hfresh⟩ := after_sources hc hnone calls hs
  obtain rfl : s = t := by simpa [hget] using hget'
  subst hsplit
  refine ((after_later c before rest).fresh hfresh).resolve_right ?_
  rintro ⟨name, -, hover⟩
  exact h before rest name rfl hover

/-- What `source` gives in any run was compiled at some point of it, of the statement now registered. It is what compiling now gives
unless a fragment that the statement reached then was overridden since. In a run that overrides no fragment, calls that only
compile change no answer. -/
theorem source_of_run (config : Config) {c : Catalog} (hc : Catalog.ofConfig config = .ok c) (calls : List Call) (id : String) :
    (∀ found, (run (source id) (c.after calls)).1 = .ok found →
      ∃ s before rest, (c.after calls).statement id = .ok s ∧ calls = before ++ rest ∧
        (c.after before).fresh s = .ok found ∧
        ((c.after calls).fresh s = .ok found ∨
          ∃ name, Include.Reaches (c.after before).fragments s.nameSpace config.substitutions s.body.children name ∧
            Overridden (c.after before) (c.after calls) name)) ∧
      (c.Settled calls →
        (run (source id) (c.after calls)).1 = ((c.after calls).statement id).bind (c.after calls).fresh ∧
        (run (source id) (c.after calls)).1 = (run (source id) (c.after (calls.filter Call.isAdd))).1 ∧
        ∀ parameter, (run (bind id parameter) (c.after calls)).1 =
          (run (bind id parameter) (c.after (calls.filter Call.isAdd))).1) := by
  obtain ⟨hindexed, hnone⟩ := ofConfig_empty hc
  have hsubstitutions (before : List Call) : (c.after before).engine.substitutions = config.substitutions := by
    have hengine := (after_later c [] before).engine
    rw [List.nil_append] at hengine
    exact (congrArg Engine.substitutions hengine.symm).trans (ofConfig_substitutions hc)
  constructor
  · intro found hfound
    cases hs : (c.after calls).statement id with
    | error e =>
      rw [source_error hs] at hfound
      cases hfound
    | ok s =>
      rw [source_ok hs] at hfound
      cases hkept : Dict.get? (c.after calls).sources s.id with
      | none =>
        rw [hkept] at hfound
        have hfresh := (run_compile s (c.after calls)).1.symm.trans hfound
        -- It is compiled on the spot, and so at the end of the run.
        exact ⟨s, calls, [], rfl, (List.append_nil calls).symm, hfresh, .inl hfresh⟩
      | some kept =>
        rw [hkept] at hfound
        cases hfound
        obtain ⟨before, rest, t, hsplit, hget, hfresh⟩ := after_sources hindexed hnone calls hkept
        obtain rfl : s = t := by simpa [(after_indexed hindexed calls).statement hs] using hget
        subst hsplit
        have hlater := (after_later c before rest).fresh hfresh
        rw [hsubstitutions] at hlater
        exact ⟨s, before, rest, rfl, rfl, hfresh, hlater⟩
  · intro hsettled
    have hsame := after_filter c calls
    have hadds := after_indexed hindexed (calls.filter Call.isAdd)
    -- Both runs are up to date, and a catalog that is so answers from its statements and fragments alone.
    have hanswer := source_of_upToDate (after_indexed hindexed calls) (after_upToDate hindexed hnone hsettled) id
    have hanswer' := source_of_upToDate hadds (after_upToDate hindexed hnone hsettled.filter) id
    have hequal : (run (source id) (c.after calls)).1 = (run (source id) (c.after (calls.filter Call.isAdd))).1 := by
      rw [hanswer, hanswer', hsame.statement, funext hsame.fresh]
    refine ⟨hanswer, hequal, fun parameter => ?_⟩
    rw [run_bind_eq, run_bind_eq, hequal, hsame.engine]
    congr 1
    funext found
    exact (Engine.bind_steady _ found parameter hsame.registry).1

/-- The SQL of a static statement. -/
def staticSql? (result : Except Error Source) : Option String := (result.toOption.bind Source.fixed?).map (·.sql)

/-- A statement compiled before another mapper is loaded, with no database configured. -/
theorem source_of_run_without_database :
    ∃ c calls, Catalog.ofConfig Config.initial = .ok c ∧
      calls = [.add "<mapper namespace=\"a\"><select id=\"x\">1</select></mapper>", .source "a.x",
        .add "<mapper namespace=\"b\"/>", .compileAll] ∧
      staticSql? (run (source "a.x") (c.after calls)).1 = some "1" ∧
      (run (source "a.x") (c.after calls)).1 = (run (source "a.x") (c.after (calls.filter Call.isAdd))).1 := by
  have hc := @ofConfig_without_types Config.initial rfl rfl
  have hsettled := @settled_of_databaseId ⟨⟨[], none, .question, false, []⟩, .builtin .name, [], [], []⟩ rfl
  exact ⟨_, _, hc, rfl, by decide +kernel, ((source_of_run Config.initial hc _ "a.x").2 (hsettled _)).2.1⟩

/-- A fragment that is overridden after the statement was compiled is not in what `source` gives. -/
theorem source_stale :
    ∃ c d, Catalog.ofConfig { Config.initial with databaseId := some "pg" } = .ok c ∧
      d = c.after [
        .add "<mapper namespace=\"a\"><sql id=\"c\">1</sql><select id=\"x\"><include refid=\"c\"/></select></mapper>",
        .source "a.x", .add "<mapper namespace=\"a\"><sql id=\"c\" databaseId=\"pg\">2</sql></mapper>"] ∧
      staticSql? (run (source "a.x") d).1 = some "1" ∧ staticSql? ((d.statement "a.x").bind d.fresh) = some "2" := by
  have hc := @ofConfig_without_types { Config.initial with databaseId := some "pg" } rfl rfl
  exact ⟨_, _, hc, rfl, by decide +kernel⟩

end Catalog

end SqlTemplate
