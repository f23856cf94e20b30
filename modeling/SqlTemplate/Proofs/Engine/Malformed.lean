import SqlTemplate.Proofs.Engine.Success
import SqlTemplate.Proofs.Mapping.WellFormed
import SqlTemplate.Proofs.Rendering.Checked
import SqlTemplate.Proofs.Rendering.Errors

/-! # When a malformed placeholder is found

The placeholders of a static statement are checked when it is compiled. Those of a dynamic one are not: each is checked whenever a
rendering writes it. No other compile error is left for then, and none at all if the placeholders in the template are well formed.
-/

namespace SqlTemplate.Engine

open SqlTemplate.Computation Placeholder

variable {e : Engine}

/-- The statement is dynamic, and what it renders for the parameter has a malformed placeholder. All before that one have mappings. -/
def FindsMalformed (e : Engine) (source : Source) (parameter : Value) (r : Registry) : Prop :=
  ∃ root type sql bindings, source = .dynamic root type ∧ e.render root parameter = .ok (sql, bindings) ∧
    Scope.Meets ⟨e.aliases, declaredType type parameter, bindings⟩ r (placeholder.tokens sql)

/-- Whether the placeholder is well formed as it stands in the finished statement. -/
def isWellFormed (e : Engine) (content : String) : Bool :=
  Placeholder.isWellFormed e.aliases (if e.shrink then squeezed content else content)

/-- Outside its placeholders, all of them well formed, the text has no backslash but that of an escape, and not one of the two
characters of an opening delimiter. -/
def isSound (e : Engine) (half : Char) : String → Bool := isClear half e.isWellFormed

theorem lasting_isSound (e : Engine) {half : Char} (hhalf : half = '#' ∨ half = '{') : Lasting (e.isSound half) := by
  refine lasting_isClear hhalf fun names n content hnames h => ?_
  unfold isWellFormed at h ⊢
  split_ifs at h ⊢
  · exact isWellFormed_squeezed_rename hnames n h
  · exact isWellFormed_rename hnames n h

theorem wellFormed_of_isSound {half : Char} {s : String} (h : e.isSound half s = true) :
    ∀ content ∈ placeholder.tokens (e.finish s), Placeholder.isWellFormed e.aliases content = true := by
  have hcheck := check_of_isClear h
  intro content hcontent
  unfold finish at hcontent
  unfold isWellFormed at hcheck
  split_ifs at hcontent hcheck with hshrink
  · rw [tokens_shrinkString, List.mem_map] at hcontent
    obtain ⟨original, horiginal, rfl⟩ := hcontent
    exact hcheck original horiginal
  · exact hcheck content hcontent

/-- What a template writes is well formed if its texts and the values put into them are. -/
theorem render_wellFormed {half : Char} (hhalf : half = '#' ∨ half = '{') {root : Node} (hroot : root.isChecked (e.isSound half) = true)
    {parameter : Value} {sql : String} {bindings : Bindings}
    (hvalues : ∀ v ∈ root.inserted (Context.initial parameter e.databaseId), e.isSound half v = true)
    (h : e.render root parameter = .ok (sql, bindings)) :
    ∀ content ∈ placeholder.tokens sql, Placeholder.isWellFormed e.aliases content = true := by
  obtain ⟨a, d, hrun, rfl, -⟩ := render_ok.1 h
  have hlasting := e.lasting_isSound hhalf
  have hfragments := Node.render_checked hlasting root hroot _ _ _ hrun (by simp [Context.initial]) hvalues
  exact wellFormed_of_isSound (hlasting.trim (fragments_checked hlasting hfragments))

/-! ## Binding -/

theorem render_error {root : Node} {parameter : Value} {err : Error} (h : e.render root parameter = .error err) :
    err.isRunTime = true := by
  have hfails := Node.render_failsByValue root (Context.initial parameter e.databaseId)
  change ((run root.render (Context.initial parameter e.databaseId)).1.map fun _ => _) = .error err at h
  cases hr : (run root.render (Context.initial parameter e.databaseId)).1 with
  | error err' =>
    rw [hr] at h
    cases h
    exact Error.isRunTime_of_isEvaluation (hfails err hr)
  | ok a =>
    rw [hr] at h
    cases h

/-- Binding fails with a compile error exactly if it finds a malformed placeholder. All its other errors depend on the parameter. -/
theorem bind_judges (source : Source) (parameter : Value) (r : Registry) :
    Judges (¬ e.FindsMalformed source parameter r) (run (e.bind source parameter) r).1 := by
  cases source with
  | fixed marked =>
    rintro ⟨root, type, sql, bindings, hsource, -⟩
    cases hsource
  | dynamic root type =>
    have hfinds : e.FindsMalformed (.dynamic root type) parameter r ↔ ∃ sql bindings, e.render root parameter = .ok (sql, bindings) ∧
        Scope.Meets ⟨e.aliases, declaredType type parameter, bindings⟩ r (placeholder.tokens sql) := by
      simp [FindsMalformed]
    rw [hfinds, bind, run_bind, run_ofExcept]
    cases hrender : e.render root parameter with
    | error err => exact .inr ⟨by simp, render_error hrender⟩
    | ok rendered =>
      obtain ⟨sql, bindings⟩ := rendered
      simp only [Except.ok.injEq, Prod.mk.injEq, and_assoc, exists_eq_left', exists_and_left]
      exact (Scope.extract_guards e.markers sql r).bind_pure

/-- Of the errors of loading a statement only those of malformed placeholders are left for when it is bound, and only if it is dynamic.
There are none if the placeholders in the template are well formed and neither its texts nor the values put into them can part one. -/
theorem bind_compile_error_iff {element : Element} {type : ValueType} {source : Source} {r r' : Registry}
    (h : run (e.compile element type) r = (.ok source, r')) (parameter : Value) (r'' : Registry) :
    let result := (run (e.bind source parameter) r'').1
    (∀ err, result = .error err → err.isRunTime = true ∨ err.isCompile = true) ∧
      ((∃ err, result = .error err ∧ err.isCompile = true) ↔ e.FindsMalformed source parameter r'') ∧
      ∀ t half, Template.ofElement element = .ok t → half = '#' ∨ half = '{' → t.root.isChecked (e.isSound half) = true →
        (∀ v ∈ t.root.inserted (Context.initial parameter e.databaseId), e.isSound half v = true) →
          ∀ err, result = .error err → err.isRunTime = true := by
  intro result
  have hjudges : Judges (¬ e.FindsMalformed source parameter r'') result := bind_judges source parameter r''
  refine ⟨hjudges.run_time_or_compile, hjudges.compile_error_iff.trans not_not, fun t half ht hhalf hroot hvalues => ?_⟩
  refine hjudges.run_time ?_
  rintro ⟨root, type', sql, bindings, rfl, hrender, before, content, after, htokens, -, hmalformed⟩
  obtain ⟨t', ht', rfl⟩ := compile_dynamic h
  obtain rfl : t = t' := Except.ok.inj (ht.symm.trans ht')
  have hwell := render_wellFormed hhalf hroot hvalues hrender content (by simp [htokens])
  exact hmalformed (Scope.wellFormed_of_isWellFormed hwell r'')

theorem bind_compile_error_iff_checked :
    let e : Engine := ⟨[], none, .question, true, []⟩
    let loop : Content := .element "foreach" [("collection", "ids"), ("item", "x"), ("open", "("), ("separator", ","), ("close", ")")]
      [.text "#\x7b x :BIGINT,\n mode=IN\x7d"]
    let element : Element := ⟨"select", [], [.element "where" [] [.text "and a in ", loop], .text " order by ${column}"]⟩
    let parameter : Value := .map [("ids", .list [.int 1, .int 2]), ("column", .string "b")]
    ∃ source r t, run (e.compile element .object) (.builtin .name) = (.ok source, r) ∧ Template.ofElement element = .ok t ∧
      t.root.isChecked (e.isSound '#') = true ∧
      (∀ v ∈ t.root.inserted (Context.initial parameter none), e.isSound '#' v = true) ∧
      ∀ err, (run (e.bind source parameter) r).1 = .error err → err.isRunTime = true := by
  intro e loop element parameter
  obtain ⟨source, hsource⟩ := Option.isSome_iff_exists.1
    (show ((run (e.compile element .object) (.builtin .name)).1.toOption).isSome by decide +kernel)
  obtain ⟨t, ht⟩ := Option.isSome_iff_exists.1 (show (Template.ofElement element).toOption.isSome by decide +kernel)
  have hchecked : (Template.ofElement element).toOption.all (fun t => t.root.isChecked (e.isSound '#') &&
      (t.root.inserted (Context.initial parameter none)).all (e.isSound '#')) = true := by decide +kernel
  rw [ht, Option.all_some, Bool.and_eq_true, List.all_eq_true] at hchecked
  have ht' := toOption_eq_some.1 ht
  have hcompile := run_of_toOption hsource
  exact ⟨source, _, t, hcompile, ht', hchecked.1, hchecked.2,
    (bind_compile_error_iff hcompile parameter _).2.2 t '#' ht' (.inl rfl) hchecked.1 hchecked.2⟩

/-- The statement is compiled, and the option that does not exist is found when it is bound. -/
theorem malformed_when_bound :
    let e : Engine := ⟨[], none, .question, false, []⟩
    let element : Element := ⟨"script", [], [.element "if" [("test", "true")] [.text "#\x7bx,bad=1\x7d"]]⟩
    ∃ source r err, run (e.compile element .object) (.builtin .name) = (.ok source, r) ∧
      (run (e.bind source (.map [])) r).1 = .error err ∧ err.isCompile = true := by
  intro e element
  obtain ⟨source, hsource⟩ := Option.isSome_iff_exists.1
    (show ((run (e.compile element .object) (.builtin .name)).1.toOption).isSome by decide +kernel)
  have hfails : (run (e.compile element .object) (.builtin .name)).1.toOption.any (fun source =>
      match (run (e.bind source (.map [])) (run (e.compile element .object) (.builtin .name)).2).1 with
      | .error err => err.isCompile
      | .ok _ => false) = true := by decide +kernel
  rw [hsource, Option.any_some] at hfails
  split at hfails
  · rename_i err herr
    exact ⟨source, _, err, run_of_toOption hsource, herr, hfails⟩
  · cases hfails

end SqlTemplate.Engine
