import SqlTemplate.Proofs.Catalog.History
import SqlTemplate.Proofs.Catalog.Loading

/-! # Mappers that are rejected

A mapper is not loaded as a whole. What comes before its first element that is rejected stays, and the catalog is the one that
loading just this leaves. What it answers afterwards follows from what was registered and compiled by then.
-/

namespace SqlTemplate

open SqlTemplate.Computation

theorem Dict.erase_of_absent {α : Type} {d : Dict α} {key : String} (h : Dict.get? d key = none) : Dict.erase d key = d := by
  induction d with
  | nil => rfl
  | cons entry d ih =>
    obtain ⟨k, v⟩ := entry
    rw [get?_cons] at h
    split at h
    · cases h
    · rename_i hk
      have hrest := ih h
      unfold erase at hrest ⊢
      rw [List.filter_cons_of_pos (by simpa using Ne.symm hk), hrest]

namespace Catalog

variable {c d : Catalog}

/-! ## Answers -/

/-- What is compiled stays so. -/
def Keeps (c d : Catalog) : Prop := ∀ id source, Dict.get? c.sources id = some source → Dict.get? d.sources id = some source

instance : IsPreorder Catalog Keeps where
  refl _ _ _ h := h
  trans _ _ _ h h' id source hs := h' id source (h id source hs)

theorem source_keeps (id : String) : Moves Keeps (source id) := by
  intro c
  cases h : c.statement id with
  | error e =>
    rw [source_error h]
    exact Std.Refl.refl c
  | ok s =>
    rw [source_ok h]
    split
    · exact Std.Refl.refl c
    · rename_i hnone
      obtain ⟨-, r, -, hstate⟩ := run_compile s c
      rw [hstate]
      -- Only what was not compiled yet is put in, and so nothing is replaced.
      intro other source hs
      cases c.fresh s with
      | error e => exact hs
      | ok compiled =>
        have hne : other ≠ s.id := by
          rintro rfl
          rw [hnone] at hs
          cases hs
        exact (Dict.get?_insert_of_ne hne _ _).trans hs

theorem bind_keeps (id : String) (parameter : Value) : Moves Keeps (bind id parameter) := by
  unfold bind
  exact .bind (source_keeps id) fun _ c _ _ h => h

theorem compileEach_keeps (ids : List String) (c : Catalog) : Keeps c (compileEach ids c).2 := by
  induction ids generalizing c with
  | nil => exact Std.Refl.refl c
  | cons id ids ih =>
    rw [compileEach_cons]
    exact IsTrans.trans _ _ _ (source_keeps id c) (ih _)

theorem apply_keeps {call : Call} (h : call.isAdd = false) (c : Catalog) : Keeps c (call.apply c) := by
  cases call with
  | add text => cases h
  | source id => exact source_keeps id c
  | bind id parameter => exact bind_keeps id parameter c
  | compileAll => exact compileEach_keeps c.ids c

/-- What was compiled of a statement, or else what compiling it gives. -/
def answer (c : Catalog) (id : String) : Except Error Source := do
  let s ← c.statement id
  (Dict.get? c.sources s.id).elim (c.fresh s) .ok

theorem source_answer (c : Catalog) (id : String) : (run (source id) c).1 = c.answer id := by
  unfold answer
  cases hs : c.statement id with
  | error e =>
    rw [source_error hs, except_error_bind]
  | ok s =>
    rw [source_ok hs, except_ok_bind]
    cases Dict.get? c.sources s.id with
    | some kept => rfl
    | none => exact (run_compile s c).1

/-- Compiling changes no answer. -/
theorem answer_of_compiles (hc : c.Indexed) (h : Compiles c d) (hkeeps : Keeps c d) (id : String) : d.answer id = c.answer id := by
  unfold answer
  rw [← h.same.statement]
  cases hs : c.statement id with
  | error e => rw [except_error_bind, except_error_bind]
  | ok s =>
    rw [except_ok_bind, except_ok_bind]
    cases hkept : Dict.get? c.sources s.id with
    | some kept => rw [hkeeps _ _ hkept, Option.elim_some, Option.elim_some]
    | none =>
      rw [Option.elim_none]
      cases hd : Dict.get? d.sources s.id with
      | none => rw [Option.elim_none, h.same.fresh s]
      | some source =>
        rw [Option.elim_some]
        -- It was compiled on the way, of the statement that is still there, and so gives what compiling it now gives.
        rcases h.sources hc _ _ hd with hsource | ⟨t, ht, hfresh⟩
        · rw [hkept] at hsource
          cases hsource
        · obtain rfl : s = t := by simpa [hc.statement hs] using ht
          exact hfresh.symm

theorem after_compiles {calls : List Call} (h : ∀ call ∈ calls, call.isAdd = false) (c : Catalog) :
    Compiles c (c.after calls) ∧ Keeps c (c.after calls) := by
  induction calls using List.reverseRecOn with
  | nil => exact ⟨Std.Refl.refl c, Std.Refl.refl c⟩
  | append_singleton calls call ih =>
    rw [List.forall_mem_append] at h
    obtain ⟨hcompiles, hkeeps⟩ := ih h.1
    have hcall := h.2 call List.mem_cons_self
    rw [after_concat]
    exact ⟨IsTrans.trans _ _ _ hcompiles (call.apply_compiles hcall _), IsTrans.trans _ _ _ hkeeps (apply_keeps hcall _)⟩

/-! ## Catalogs that differ under one id -/

/-- Whether a look-up of the id may find the statement registered under the key. -/
def StandsFor (c : Catalog) (key id : String) : Prop :=
  id = key ∨ ∃ s, Dict.get? c.statements key = some s ∧ s.shortId = id

theorem statement_cases {id : String} {s : Statement} (h : c.statement id = .ok s) :
    Dict.get? c.statements id = some s ∨ s.shortId = id := by
  unfold statement at h
  split at h
  · rename_i hget
    cases h
    exact .inl hget
  · split at h
    · cases h
    · rename_i hfound
      cases h
      have hmem : s ∈ (Dict.values c.statements).filter fun s => s.shortId == id := by simp [hfound]
      exact .inr (beq_iff_eq.1 (List.mem_filter.1 hmem).2)
    · cases h

theorem statement_remove (hc : c.Indexed) {key id : String} (h : ¬ c.StandsFor key id) :
    (c.remove key).statement id = c.statement id := by
  have hne : id ≠ key := fun hid => h (.inl hid)
  have hfilter : (Dict.values (Dict.erase c.statements key)).filter (fun s => s.shortId == id) =
      (Dict.values c.statements).filter fun s => s.shortId == id := by
    unfold Dict.values Dict.erase
    rw [List.filter_map, List.filter_map, List.filter_filter]
    congr 1
    refine List.filter_congr fun entry hentry => ?_
    obtain ⟨k, s⟩ := entry
    by_cases hk : k = key
    · subst hk
      -- A short id may find the removed statement too, which is why the key alone does not decide it.
      have hshort : s.shortId ≠ id := fun hshort => h (.inr ⟨s, hc.sorted.get?_of_mem hentry, hshort⟩)
      simp [hshort]
    · simp [hk]
  unfold statement remove
  dsimp only
  rw [Dict.get?_erase, if_neg hne, hfilter]

/-- The same but for the statement under the key, which may be gone in the second. -/
structure Apart (key : String) (c d : Catalog) : Prop where
  rest : c.remove key = d.remove key
  fewer : ∀ s, Dict.get? d.statements key = some s → Dict.get? c.statements key = some s

theorem apart_remove (c : Catalog) (key : String) : Apart key c (c.remove key) := by
  refine ⟨?_, fun s hs => ?_⟩
  · unfold remove Dict.erase
    simp only [List.filter_filter, Bool.and_self]
  · rw [remove, Dict.get?_erase, if_pos rfl] at hs
    cases hs

namespace Apart

variable {key id : String}

theorem statement (h : Apart key c d) (hc : c.Indexed) (hd : d.Indexed) (hid : ¬ c.StandsFor key id) :
    c.statement id = d.statement id := by
  have hid' : ¬ d.StandsFor key id := by
    rintro (heq | ⟨s, hs, hshort⟩)
    · exact hid (.inl heq)
    · exact hid (.inr ⟨s, h.fewer s hs, hshort⟩)
  rw [← statement_remove hc hid, ← statement_remove hd hid', h.rest]

theorem sources (h : Apart key c d) (hid : id ≠ key) : Dict.get? c.sources id = Dict.get? d.sources id := by
  have hrest := congrArg (fun c => Dict.get? c.sources id) h.rest
  simpa only [remove, Dict.get?_erase, if_neg hid] using hrest

theorem fresh (h : Apart key c d) (s : Statement) : c.fresh s = d.fresh s := by
  change (c.remove key).fresh s = (d.remove key).fresh s
  rw [h.rest]

theorem answer (h : Apart key c d) (hc : c.Indexed) (hd : d.Indexed) (hid : ¬ c.StandsFor key id) :
    c.answer id = d.answer id := by
  unfold Catalog.answer
  rw [← h.statement hc hd hid]
  cases hs : c.statement id with
  | error e => rw [except_error_bind, except_error_bind]
  | ok s =>
    have hne : s.id ≠ key := by
      rintro rfl
      rcases statement_cases hs with hget | hshort
      · exact hid (.inl (hc.keyed id s hget).symm)
      · exact hid (.inr ⟨s, hc.statement hs, hshort⟩)
    rw [except_ok_bind, except_ok_bind, h.sources hne, h.fresh s]

end Apart

/-- The same fragments and the same statements but for one, and the same answers wherever that one is not asked for, until
another mapper is loaded. -/
structure AgreesBut (key : String) (c d : Catalog) : Prop where
  fragments : c.fragments = d.fragments
  statements : ∀ id, id ≠ key → Dict.get? c.statements id = Dict.get? d.statements id
  answers : ∀ calls id, (∀ call ∈ calls, Call.isAdd call = false) → ¬ c.StandsFor key id →
    (c.after calls).statement id = (d.after calls).statement id ∧
    (run (source id) (c.after calls)).1 = (run (source id) (d.after calls)).1 ∧
    ∀ parameter, (run (bind id parameter) (c.after calls)).1 = (run (bind id parameter) (d.after calls)).1

theorem Apart.agreesBut {key : String} (h : Apart key c d) (hc : c.Indexed) (hd : d.Indexed) : AgreesBut key c d := by
  have hengine : c.engine = d.engine := congrArg (·.engine) h.rest
  have hregistry : c.registry = d.registry := congrArg (·.registry) h.rest
  refine ⟨congrArg (·.fragments) h.rest, fun id hid => ?_, fun calls id hcalls hid => ?_⟩
  · have hrest := congrArg (fun c => Dict.get? c.statements id) h.rest
    simpa only [remove, Dict.get?_erase, if_neg hid] using hrest
  · obtain ⟨hcompiles, hkeeps⟩ := after_compiles hcalls c
    obtain ⟨hcompiles', hkeeps'⟩ := after_compiles hcalls d
    have hsource : (run (source id) (c.after calls)).1 = (run (source id) (d.after calls)).1 := by
      rw [source_answer, source_answer, answer_of_compiles hc hcompiles hkeeps, answer_of_compiles hd hcompiles' hkeeps',
        h.answer hc hd hid]
    refine ⟨?_, hsource, fun parameter => ?_⟩
    · rw [← hcompiles.same.statement, ← hcompiles'.same.statement, h.statement hc hd hid]
    · rw [run_bind_eq, run_bind_eq, hsource, ← hcompiles.same.engine, ← hcompiles'.same.engine, hengine]
      congr 1
      funext found
      refine (Engine.bind_steady _ found parameter ?_).1
      exact (hcompiles.same.registry.symm.trans (hregistry ▸ .refl _)).trans hcompiles'.same.registry

/-! ## Rejection -/

theorem StopsAtStatement.loads {nameSpace : String} {elements : List Element} {element : Element} {e : Error} {m : Catalog}
    (h : c.StopsAtStatement nameSpace elements element e m) : Loads c m := by
  obtain ⟨before, -, all, n, -, hfragments, hbefore, -⟩ := h
  have hall := addFragments_loads nameSpace elements c
  have hm := addStatements_loads nameSpace before all
  rw [hfragments] at hall
  rw [hbefore] at hm
  exact IsTrans.trans _ _ _ hall hm

/-- A mapper that is rejected, after any run, leaves what loading the part of it before its first rejected element leaves, where
all fragments come before the statements. If the rejected element was to be registered and a statement stands under the id of
its key, the two catalogs agree but for that statement. -/
theorem add_rejected (config : Config) {c d : Catalog} (hc : Catalog.ofConfig config = .ok c) (calls : List Call) (text : String)
    {e : Error} (h : run (addMapper text) (c.after calls) = (.error e, d)) :
    (readMapper text = .error e ∧ d = c.after calls) ∨
      ∃ nameSpace root, readMapper text = .ok (nameSpace, root) ∧
        ((c.after calls).StopsAtFragment nameSpace root.elements e d ∨
          ∃ element m, (c.after calls).StopsAtStatement nameSpace root.elements element e m ∧
            (d = m ∨ ∃ id, m.placeOf nameSpace element = .ok (some id) ∧
              (Dict.get? m.statements (id ++ selectKeySuffix)).isSome ∧ AgreesBut (id ++ selectKeySuffix) m d)) := by
  obtain ⟨hindexed, hnone⟩ := ofConfig_empty hc
  rcases addMapper_error h with hread | ⟨nameSpace, root, hread, hfragment | ⟨element, m, hstops, helement⟩⟩
  · exact .inl hread
  · exact .inr ⟨nameSpace, root, hread, .inl hfragment⟩
  · refine .inr ⟨nameSpace, root, hread, .inr ⟨element, m, hstops, ?_⟩⟩
    have hloads := hstops.loads
    have hm := hloads.indexed (after_indexed hindexed calls)
    rcases addElement_error helement with ⟨-, rfl⟩ | ⟨id, hplace, -, rfl⟩
    · exact .inl rfl
    · cases hkey : Dict.get? m.statements (id ++ selectKeySuffix) with
      | some t =>
        have hremoved := (remove_loads (id ++ selectKeySuffix) m).indexed hm
        exact .inr ⟨id, hplace, by rw [hkey]; rfl, (apart_remove m _).agreesBut hm hremoved⟩
      | none =>
        left
        -- What is compiled has its statement, so that nothing is removed with a key that is not there.
        have hsource : Dict.get? m.sources (id ++ selectKeySuffix) = none := by
          cases hs : Dict.get? m.sources (id ++ selectKeySuffix) with
          | none => rfl
          | some source =>
            obtain ⟨hs, hsame⟩ := hloads.sources _ _ hs
            obtain ⟨_, _, s, -, hget, -⟩ := after_sources hindexed hnone calls hs
            rw [hkey, hget] at hsame
            cases hsame
        rw [remove, Dict.erase_of_absent hkey, Dict.erase_of_absent hsource]

/-- The second of two fragments with one id is rejected. -/
theorem add_rejected_fragment :
    ∃ text c d e nameSpace root, text = "<mapper namespace=\"a\"><sql id=\"f\">1</sql><sql id=\"f\">2</sql></mapper>" ∧
      Catalog.ofConfig Config.initial = .ok c ∧ run (addMapper text) (c.after []) = (.error e, d) ∧
      readMapper text = .ok (nameSpace, root) ∧ (c.after []).StopsAtFragment nameSpace root.elements e d := by
  let text := "<mapper namespace=\"a\"><sql id=\"f\">1</sql><sql id=\"f\">2</sql></mapper>"
  have hread : (readMapper text).toOption.any fun found => found.2.elements.all (·.name == "sql") := by decide +kernel
  obtain ⟨c, hc, hrejected⟩ : ∃ c, Catalog.ofConfig Config.initial = .ok c ∧ (run (addMapper text) c).1.toOption.isNone :=
    ⟨_, ofConfig_without_types rfl rfl, by decide +kernel⟩
  rcases hrun : run (addMapper text) c with ⟨e | n, d⟩ <;> rw [hrun] at hrejected
  · rcases add_rejected Config.initial hc [] text hrun with ⟨herror, -⟩ | ⟨nameSpace, root, hroot, hfragment | ⟨element, m, hstops, -⟩⟩
    · rw [herror] at hread
      cases hread
    · exact ⟨text, c, d, e, nameSpace, root, rfl, hc, hrun, hroot, hfragment⟩
    · obtain ⟨before, rest, _, _, hsplit, -⟩ := id hstops
      rw [hroot] at hread
      have hname : element.name = "sql" := by
        have hall := List.all_eq_true.1 hread element (by rw [hsplit]; simp)
        exact beq_iff_eq.1 hall
      -- A fragment among the statements is passed over, and so is not what the mapper was rejected for.
      have herror := hstops.rejects
      unfold addElement at herror
      rw [hname] at herror
      cases herror
  · cases hrejected

/-- The first of two statements with one id stays. -/
theorem rejected_mapper_adds :
    ∃ c d, Catalog.ofConfig Config.initial = .ok c ∧
      d = run (addMapper "<mapper namespace=\"a\"><select id=\"x\">1</select><select id=\"x\">2</select></mapper>") c ∧
      d.1.toOption.isNone ∧ (c.statement "a.x").toOption.isNone ∧ (d.2.statement "a.x").toOption.isSome := by
  have hc := @ofConfig_without_types Config.initial rfl rfl
  exact ⟨_, _, hc, rfl, by decide +kernel⟩

end Catalog

end SqlTemplate
