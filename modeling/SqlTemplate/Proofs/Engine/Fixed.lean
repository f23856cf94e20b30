import SqlTemplate.Proofs.Engine.Success
import SqlTemplate.Proofs.Mapping.Extraction
import SqlTemplate.Proofs.Mapping.Values
import SqlTemplate.Proofs.Template.Static

/-! # Statements extracted ahead of time

A static statement is rendered and extracted once, when it is compiled. Rendered for every parameter instead it would have the
same SQL and the same properties. Its values would be the same except under the two names that every rendering binds, which a
statement extracted ahead of time knows nothing of.
-/

namespace SqlTemplate

open SqlTemplate.Computation

/-- A static template is written the same for every parameter and binds nothing. -/
theorem Engine.render_static {root : Node} (h : root.isStatic = true) :
    ∃ sql, ∀ (e : Engine) (parameter : Value),
      e.render root parameter = .ok (e.finish sql, Bindings.initial parameter e.databaseId) := by
  obtain ⟨added, hwrites⟩ := root.render_static h
  refine ⟨Text.trimString (" ".intercalate added), fun e parameter => Engine.render_ok.2 ⟨true, _, hwrites _, ?_, rfl⟩⟩
  rw [Context.sql, Context.initial, List.nil_append]

namespace BoundSql

variable {marked marked' : MarkedSql} {parameter : Value}

/-- Where a rendering binds nothing but the reserved names, every other path is read as if nothing were bound. -/
theorem find?_initial (marked' : MarkedSql) (databaseId : Option String) (path : Path) :
    (⟨marked, Bindings.initial parameter databaseId⟩ : BoundSql).find? parameter path =
      if path.root = parameterKey then parameter.select? path.rest
      else if path.root = databaseIdKey then ((databaseId.map Value.string).getD .null).select? path.rest
      else (⟨marked', []⟩ : BoundSql).find? parameter path := by
  unfold find?
  rw [Bindings.get?_initial, Dict.get?_nil]
  split_ifs <;> rfl

/-- The path leads to the same value whether or not the reserved names are bound. -/
structure Unaffected (s : BoundSql) (databaseId : Option String) (parameter : Value) (path : Path) : Prop where
  whole : path.root = parameterKey → s.find? parameter path = parameter.select? path.rest
  database : path.root = databaseIdKey →
    s.find? parameter path = ((databaseId.map Value.string).getD .null).select? path.rest

theorem unaffected_iff (marked' : MarkedSql) {databaseId : Option String} {path : Path} :
    Unaffected ⟨marked, []⟩ databaseId parameter path ↔
      (⟨marked, []⟩ : BoundSql).find? parameter path =
        (⟨marked', Bindings.initial parameter databaseId⟩ : BoundSql).find? parameter path := by
  have hkeys : parameterKey ≠ databaseIdKey := by decide
  rw [find?_initial marked databaseId path]
  constructor
  · intro h
    split_ifs with hp hd
    · exact h.whole hp
    · exact h.database hd
    · rfl
  · intro h
    refine ⟨fun hp => by rw [h, if_pos hp], fun hd => ?_⟩
    rw [h, if_neg fun hp => hkeys (hp.symm.trans hd), if_pos hd]

theorem unaffected_of_root {s : BoundSql} {databaseId : Option String} {path : Path}
    (h : path.root ∉ [parameterKey, databaseIdKey]) : s.Unaffected databaseId parameter path :=
  ⟨fun hp => absurd hp (by simp_all), fun hd => absurd hd (by simp_all)⟩

variable {databaseId : Option String} {ms ns : List ParameterMapping}

theorem resolveEach_of_unaffected (h : List.Forall₂ (fun m n => m.property = n.property ∧ m.mode = n.mode) ms ns)
    (hu : ∀ m ∈ ms, m.mode = .output ∨ Unaffected ⟨marked, []⟩ databaseId parameter (Path.parse m.property))
    {values : List Value} :
    (⟨marked, []⟩ : BoundSql).resolveEach parameter ms = .ok values ↔
      (⟨marked', Bindings.initial parameter databaseId⟩ : BoundSql).resolveEach parameter ns = .ok values := by
  rw [resolveEach_ok, resolveEach_ok]
  induction h generalizing values with
  | nil => rw [List.forall₂_nil_left_iff, List.forall₂_nil_left_iff]
  | cons hmn _ ih =>
    rw [List.forall_mem_cons] at hu
    have hcongr := @resolve_congr _ _ _ _ _ hmn.1 hmn.2 (hu.1.imp_right (unaffected_iff marked').1)
    simp only [List.forall₂_cons_left_iff, hcongr, ih hu.2]

/-- Where the values of both are there and the same, no path was affected. -/
theorem unaffected_of_resolveEach (h : List.Forall₂ (fun m n => m.property = n.property ∧ m.mode = n.mode) ms ns)
    {values : List Value} (hs : (⟨marked, []⟩ : BoundSql).resolveEach parameter ms = .ok values)
    (hb : (⟨marked', Bindings.initial parameter databaseId⟩ : BoundSql).resolveEach parameter ns = .ok values) :
    ∀ m ∈ ms, m.mode = .output ∨ Unaffected ⟨marked, []⟩ databaseId parameter (Path.parse m.property) := by
  rw [resolveEach_ok] at hs hb
  induction h generalizing values with
  | nil => simp
  | cons hmn _ ih =>
    obtain ⟨v, rest, hv, hrest, rfl⟩ := List.forall₂_cons_left_iff.1 hs
    cases hb with
    | cons hv' hrest' =>
      refine List.forall_mem_cons.2 ⟨or_iff_not_imp_left.2 fun ho => ?_, ih hrest hrest'⟩
      rw [resolve_input_ok ho] at hv
      rw [resolve_input_ok (hmn.2 ▸ ho), ← hmn.1] at hv'
      exact (unaffected_iff marked').2 (hv.trans hv'.symm)

/-- Two extractions from one text, one without bindings and one with the reserved names bound. Their values are the same exactly
if no path is affected, unless both have a path that leads nowhere. -/
theorem resolveAll_eq_iff (parameter : Value) (databaseId : Option String)
    (h : List.Forall₂ (fun m n => m.property = n.property ∧ m.mode = n.mode) marked.mappings marked'.mappings) :
    ((⟨marked, []⟩ : BoundSql).resolveAll parameter).toOption =
        ((⟨marked', Bindings.initial parameter databaseId⟩ : BoundSql).resolveAll parameter).toOption ↔
      (∀ m ∈ marked.mappings, m.mode = .output ∨
        Unaffected ⟨marked, []⟩ databaseId parameter (Path.parse m.property)) ∨
      Misses ⟨marked, []⟩ parameter ∧ Misses ⟨marked', Bindings.initial parameter databaseId⟩ parameter := by
  rw [← resolveAll_none, ← resolveAll_none]
  constructor
  · intro heq
    cases hs : (⟨marked, []⟩ : BoundSql).resolveAll parameter with
    | error u =>
      rw [hs] at heq
      exact .inr ⟨rfl, heq.symm⟩
    | ok values =>
      cases hb : (⟨marked', Bindings.initial parameter databaseId⟩ : BoundSql).resolveAll parameter with
      | error u => simp [hs, hb, Except.toOption] at heq
      | ok values' =>
        obtain rfl : values = values' := by simpa [hs, hb, Except.toOption] using heq
        exact .inl (unaffected_of_resolveEach h hs hb)
  · rintro (hu | ⟨hs, hb⟩)
    · refine Option.ext fun values => ?_
      rw [toOption_eq_some, toOption_eq_some]
      exact resolveEach_of_unaffected h hu
    · rw [hs, hb]

end BoundSql

/-- A static statement extracted when it is compiled and rendered for a parameter instead. The SQL and the properties are always the
same. The values are the same, or missing in both, exactly if every path that is read leads to the same value without the reserved
names, which it does unless it begins with one of them. -/
theorem fixed_agrees_iff (e : Engine) (element : Element) (type : ValueType) (parameter : Value) {t : Template}
    {marked : MarkedSql} {s b : BoundSql} {r₁ r₂ r₃ s₁ s₂ s₃ : Registry}
    (ht : Template.ofElement element = .ok t)
    (hcompile : run (e.compile element type) r₁ = (.ok (.fixed marked), s₁))
    (hs : run (e.bind (.fixed marked) parameter) r₂ = (.ok s, s₂))
    (hb : run (e.bind (.dynamic t.root type) parameter) r₃ = (.ok b, s₃)) :
    s.sql = b.sql ∧ s.mappings.map (·.property) = b.mappings.map (·.property) ∧
      ((s.resolveAll parameter).toOption = (b.resolveAll parameter).toOption ↔
        (∀ m ∈ s.mappings, m.mode = .output ∨ s.Unaffected e.databaseId parameter (Path.parse m.property)) ∨
          s.Misses parameter ∧ b.Misses parameter) ∧
      ((∀ m ∈ s.mappings, m.mode = .output ∨ (Path.parse m.property).root ∉ [parameterKey, databaseIdKey]) →
        (s.resolveAll parameter).toOption = (b.resolveAll parameter).toOption) := by
  obtain ⟨_, sql, bindings, ht', hd, hrender, hextract⟩ := Engine.compile_fixed hcompile
  cases ht.symm.trans ht'
  obtain ⟨rfl, -⟩ := Engine.bind_fixed_ok.1 hs
  obtain ⟨sql', hrender', hextract'⟩ := Engine.bind_dynamic_ok.1 hb
  -- A static template writes the same whatever is bound, so that both extractions read the same text.
  obtain ⟨written, hwritten⟩ := Engine.render_static (Template.root_isStatic ht hd)
  rw [hwritten e, Except.ok.injEq, Prod.mk.injEq] at hrender hrender'
  obtain ⟨rfl, -⟩ := hrender
  obtain ⟨rfl, hinitial⟩ := hrender'
  obtain ⟨hsql, hreads⟩ := Scope.extract_ok hextract
  obtain ⟨hsql', hreads'⟩ := Scope.extract_ok hextract'
  have hsame := Scope.reads_same hreads hreads'
  have hb : ⟨b.toMarkedSql, Bindings.initial parameter e.databaseId⟩ = b := by rw [hinitial]
  have hiff := BoundSql.resolveAll_eq_iff parameter e.databaseId hsame
  rw [hb] at hiff
  refine ⟨hsql.trans hsql'.symm, Scope.properties_same hsame, hiff, fun hroots => hiff.2 (.inl fun m hm => ?_)⟩
  exact (hroots m hm).imp_right BoundSql.unaffected_of_root

/-- Without a database id its name stands for null, which is also what a map has for it. -/
theorem fixed_agrees_iff_without_database :
    let e : Engine := ⟨[], none, .question, false, []⟩
    let element : Element := ⟨"select", [], [.text "select #{a}, #{_databaseId}"]⟩
    let parameter : Value := .map [("a", .int 1)]
    ∃ t marked s b r q, Template.ofElement element = .ok t ∧
      run (e.compile element .object) (.builtin .name) = (.ok (.fixed marked), r) ∧
      run (e.bind (.fixed marked) parameter) r = (.ok s, r) ∧
      run (e.bind (.dynamic t.root .object) parameter) r = (.ok b, q) ∧
      (s.resolveAll parameter).toOption = (b.resolveAll parameter).toOption := by
  intro e element parameter
  let marked : MarkedSql := ⟨"select ?, ?", [⟨"a", .object, none, none, .input, none, none, some "object"⟩,
    ⟨"_databaseId", .object, none, none, .input, none, none, some "object"⟩]⟩
  have ht := @Template.ofElement_text "select" "select #{a}, #{_databaseId}" (by decide +kernel)
  have hcompile : run (e.compile element .object) (.builtin .name) = (.ok (.fixed marked), _) :=
    Engine.compile_of_fixed? (by decide +kernel)
  obtain ⟨b, hb⟩ := Option.isSome_iff_exists.1 (show ((run (e.bind (.dynamic (.sequence [.text "select #{a}, #{_databaseId}"])
    .object) parameter) (run (e.compile element .object) (.builtin .name)).2).1.toOption).isSome by decide +kernel)
  have hs := (@Engine.bind_fixed_ok e (run (e.compile element .object) (.builtin .name)).2 _ marked parameter _).2 ⟨rfl, rfl⟩
  refine ⟨_, marked, _, b, _, _, ht, hcompile, hs, run_of_toOption hb, ?_⟩
  refine (fixed_agrees_iff e element .object parameter ht hcompile hs (run_of_toOption hb)).2.2.1.2 (.inl ?_)
  have ha : (Path.parse "a").root ∉ [parameterKey, databaseIdKey] := by decide +kernel
  have hid : Path.parse "_databaseId" = ⟨"_databaseId", .property databaseIdKey, []⟩ := by decide +kernel
  refine List.forall_mem_cons.2 ⟨.inr (BoundSql.unaffected_of_root ha), List.forall_mem_singleton.2 (.inr ?_)⟩
  rw [hid]
  exact ⟨fun h => absurd h (by decide), fun _ => rfl⟩

/-- With one it stands for the id, which a statement extracted ahead of time does not bind. -/
theorem fixed_differs_with_database :
    let e : Engine := ⟨[], some "postgres", .question, false, []⟩
    let element : Element := ⟨"select", [], [.text "select #{_databaseId}"]⟩
    ∃ t marked s b r q, Template.ofElement element = .ok t ∧
      run (e.compile element .object) (.builtin .name) = (.ok (.fixed marked), r) ∧
      run (e.bind (.fixed marked) (.map [])) r = (.ok s, r) ∧
      run (e.bind (.dynamic t.root .object) (.map [])) r = (.ok b, q) ∧
      (s.resolveAll (.map [])).toOption ≠ (b.resolveAll (.map [])).toOption := by
  intro e element
  let marked : MarkedSql := ⟨"select ?", [⟨"_databaseId", .object, none, none, .input, none, none, some "object"⟩]⟩
  have ht := @Template.ofElement_text "select" "select #{_databaseId}" (by decide +kernel)
  have hcompile : run (e.compile element .object) (.builtin .name) = (.ok (.fixed marked), _) :=
    Engine.compile_of_fixed? (by decide +kernel)
  have htexts : ((run (e.bind (.dynamic (.sequence [.text "select #{_databaseId}"]) .object) (.map []))
      (run (e.compile element .object) (.builtin .name)).2).1.toOption.bind fun b =>
        (b.resolveAll (.map [])).toOption.map (·.map Value.text)) = some ["postgres"] := by decide +kernel
  obtain ⟨b, hb, hvalues⟩ := Option.bind_eq_some_iff.1 htexts
  refine ⟨_, marked, _, b, _, _, ht, hcompile, Engine.bind_fixed_ok.2 ⟨rfl, rfl⟩, run_of_toOption hb, fun heq => ?_⟩
  rw [← heq] at hvalues
  revert hvalues
  decide +kernel

end SqlTemplate
