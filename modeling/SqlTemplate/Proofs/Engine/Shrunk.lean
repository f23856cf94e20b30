import SqlTemplate.Proofs.Engine.Success
import SqlTemplate.Proofs.Mapping.Shrunk

/-! # Shrinking statements

An engine that shrinks statements gives out the statements of one that does not, shrunk, with the same parameters in the same order.
-/

namespace SqlTemplate.Engine

open SqlTemplate.Computation

variable {e : Engine} {element : Element} {type : ValueType} {parameter : Value} {b : BoundSql}

/-- With some registry the text has these markers and mappings. -/
def Extracts (e : Engine) (sql : String) (declared : ValueType) (bindings : Bindings) (marked : MarkedSql) : Prop :=
  ∃ r, (run (e.extract sql declared bindings) r).1 = .ok marked

/-- With some registries the statement is compiled, and bound to the parameter with this result. -/
def Gives (e : Engine) (element : Element) (type : ValueType) (parameter : Value) (b : BoundSql) : Prop :=
  ∃ source r r', (run (e.compile element type) r).1 = .ok source ∧ (run (e.bind source parameter) r').1 = .ok b

/-- What is given out is extracted from a rendering, which is that for no parameter if the template is static. -/
theorem Gives.rendered (h : e.Gives element type parameter b) :
    ∃ t a d, Template.ofElement element = .ok t ∧
      run t.root.render (Context.initial (if t.dynamic then parameter else .null) e.databaseId) = (.ok a, d) ∧
        b.additional = (if t.dynamic then d.bindings else []) ∧
          e.Extracts (e.finish d.sql) (if t.dynamic then declaredType type parameter else type) b.additional b.toMarkedSql := by
  obtain ⟨source, r, r', hcompile, hbind⟩ := h
  obtain ⟨t, ht, ⟨hd, rfl⟩ | ⟨hd, sql, bindings, marked, rfl, hrender, hextract⟩⟩ := compile_ok (Prod.ext hcompile rfl)
  · obtain ⟨sql, hrender, hextract⟩ := bind_dynamic_ok.1 (Prod.ext hbind rfl)
    obtain ⟨a, d, hrun, rfl, hbindings⟩ := render_ok.1 hrender
    refine ⟨t, a, d, ht, ?_⟩
    rw [hd]
    exact ⟨hrun, hbindings, r', congrArg Prod.fst hextract⟩
  · obtain ⟨rfl, -⟩ := bind_fixed_ok.1 (Prod.ext hbind rfl)
    obtain ⟨a, d, hrun, rfl, -⟩ := render_ok.1 hrender
    refine ⟨t, a, d, ht, ?_⟩
    rw [hd]
    exact ⟨hrun, rfl, r, congrArg Prod.fst hextract⟩

/-- Markers and mappings can be made from a text before it is shrunk or after. So an engine that shrinks statements binds what one
that does not binds, in the same order. -/
theorem shrink_commutes (e : Engine) :
    (∀ sql declared bindings marked shrunk, e.Extracts sql declared bindings marked →
      e.Extracts (Text.shrinkString sql) declared bindings shrunk → marked.ShrinksTo shrunk) ∧
    ∀ element type parameter b shrunk, { e with shrink := false }.Gives element type parameter b →
      { e with shrink := true }.Gives element type parameter shrunk →
        b.toMarkedSql.ShrinksTo shrunk.toMarkedSql ∧ shrunk.additional = b.additional := by
  have hextracts {sql : String} {declared : ValueType} {bindings : Bindings} {marked shrunk : MarkedSql}
      (h : e.Extracts sql declared bindings marked) (h' : e.Extracts (Text.shrinkString sql) declared bindings shrunk) :
      marked.ShrinksTo shrunk := by
    obtain ⟨r, h⟩ := h
    obtain ⟨r', h'⟩ := h'
    exact Scope.extract_shrinkString h h'
  refine ⟨fun _ _ _ _ _ => hextracts, fun element type parameter b shrunk h h' => ?_⟩
  obtain ⟨t, a, d, ht, hrun, hbindings, hextract⟩ := h.rendered
  obtain ⟨t', a', d', ht', hrun', hbindings', hextract'⟩ := h'.rendered
  obtain rfl : t = t' := Except.ok.inj (ht.symm.trans ht')
  obtain ⟨-, rfl⟩ := ok_inj.1 (hrun.symm.trans hrun')
  have hadditional : shrunk.additional = b.additional := hbindings'.trans hbindings.symm
  rw [hadditional] at hextract'
  exact ⟨hextracts hextract hextract', hadditional⟩

/-- Blanks stand beside escapes, inside placeholders and after an opening delimiter that is not closed before the next node. -/
theorem shrink_commutes_escapes :
    let e : Engine := ⟨[], none, .numbered, false, []⟩
    let text := " a \\#\x7bx \x7d\n\t= #\x7b a  b\t, mode = IN \x7d  #\x7bc\\\x7d  d\\ \x7d  #\x7be \\"
    let element : Element := ⟨"select", [], [.text text, .element "if" [("test", "true")] [.text "\x7d  #\x7b f  \x7d"]]⟩
    ∃ marked tight b shrunk, e.Extracts text .object [] marked ∧ e.Extracts (Text.shrinkString text) .object [] tight ∧
      marked.mappings.map (·.property) = ["a  b", "c\x7d  d\\"] ∧ marked.ShrinksTo tight ∧
      { e with shrink := false }.Gives element .object (.map []) b ∧ { e with shrink := true }.Gives element .object (.map []) shrunk ∧
      shrunk.sql = "a #\x7bx \x7d = $1 $2 $3 $4" ∧ b.toMarkedSql.ShrinksTo shrunk.toMarkedSql ∧ shrunk.additional = b.additional := by
  intro e text element
  have hproperties : (run (e.extract text .object []) (.builtin .name)).1.toOption.map (·.mappings.map (·.property)) =
      some ["a  b", "c\x7d  d\\"] := by decide +kernel
  obtain ⟨marked, hmarked, hproperties⟩ := Option.map_eq_some_iff.1 hproperties
  obtain ⟨tight, htight⟩ := Option.isSome_iff_exists.1
    (show (run (e.extract (Text.shrinkString text) .object []) (.builtin .name)).1.toOption.isSome by decide +kernel)
  obtain ⟨b, hb⟩ := Option.isSome_iff_exists.1
    (show ((run (e.compile element .object) (.builtin .name)).1.toOption.bind fun source =>
      (run (e.bind source (.map [])) (.builtin .name)).1.toOption).isSome by decide +kernel)
  obtain ⟨source, hcompile, hbind⟩ := Option.bind_eq_some_iff.1 hb
  have hsql : ((run ({ e with shrink := true }.compile element .object) (.builtin .name)).1.toOption.bind fun source =>
      (run ({ e with shrink := true }.bind source (.map [])) (.builtin .name)).1.toOption).map (·.sql) =
        some "a #\x7bx \x7d = $1 $2 $3 $4" := by decide +kernel
  obtain ⟨shrunk, hshrunk, hsql⟩ := Option.map_eq_some_iff.1 hsql
  obtain ⟨source', hcompile', hbind'⟩ := Option.bind_eq_some_iff.1 hshrunk
  have hplain : e.Extracts text .object [] marked := ⟨_, toOption_eq_some.1 hmarked⟩
  have htext : e.Extracts (Text.shrinkString text) .object [] tight := ⟨_, toOption_eq_some.1 htight⟩
  have hgives : { e with shrink := false }.Gives element .object (.map []) b :=
    ⟨source, _, _, toOption_eq_some.1 hcompile, toOption_eq_some.1 hbind⟩
  have hgives' : { e with shrink := true }.Gives element .object (.map []) shrunk :=
    ⟨source', _, _, toOption_eq_some.1 hcompile', toOption_eq_some.1 hbind'⟩
  exact ⟨marked, tight, b, shrunk, hplain, htext, hproperties, (shrink_commutes e).1 _ _ _ _ _ hplain htext, hgives, hgives', hsql,
    (shrink_commutes e).2 _ _ _ _ _ hgives hgives'⟩

end SqlTemplate.Engine
