import SqlTemplate.Proofs.Engine.Success
import SqlTemplate.Proofs.Mapping.Values
import SqlTemplate.Proofs.Rendering.Emitted
import SqlTemplate.Proofs.Template.Static
import SqlTemplate.Proofs.Token.Shrink

/-! # Every placeholder binds the value of its iteration

However deep its loops are nested, a placeholder is bound to the value that its path has where it was written.
-/

namespace SqlTemplate

open SqlTemplate.Computation

namespace Engine

variable {e : Engine}

/-- A content as it stands in the statement that is given out. -/
def shown (e : Engine) (cs : List Char) : List Char := if e.shrink then Text.squeeze cs else cs

theorem tokens_finish {gs : List Glyph} (h : Glyph.Tidy gs) :
    placeholder.tokens (e.finish (.ofList (Glyph.text gs))) =
      (Glyph.raws gs).map fun raw => .ofList (e.shown (unescape raw)) := by
  unfold finish shown
  cases e.shrink
  · exact Glyph.tokens_text h.sound
  · rw [if_pos rfl, tokens_shrinkString, Glyph.tokens_text h.sound, List.map_map]
    refine List.map_congr_left fun raw _ => ?_
    simp only [Function.comp_apply, Glyph.meant, String.toList_ofList, if_true]

theorem shown_spelled {cs name tail : List Char} (h : Spelled cs name tail) : Spelled (e.shown cs) name (e.shown tail) := by
  unfold shown
  split_ifs
  · exact h.squeeze
  · exact h

/-- The path of an emission. Where the engine shrinks statements, the blanks in an index are shrunk with the rest. -/
def pathOf (e : Engine) (em : Emission) : Path := Path.parse (e.finish em.content)

theorem pathOf_eq {em : Emission} {name tail : List Char} (h : Spelled em.content.toList name tail) :
    e.pathOf em = Path.parse (.ofList (e.shown em.content.toList)) := by
  unfold pathOf finish shown
  split_ifs
  · rw [Text.shrinkString, Text.shrink_eq, h.squeeze.trim_eq, h.squeeze.parse_eq, h.squeeze.bare.parse_eq]
  · rw [String.ofList_toList]

end Engine

/-- The mapping binds the path from the place where the emission stands: the steps after the root are the same, and the root is
an alias that is bound to the variable's value, or itself if it is no variable. -/
structure BoundSql.Maps (b : BoundSql) (m : ParameterMapping) (em : Emission) (path : Path) : Prop where
  mode : m.mode = .input
  rest : (Path.parse m.property).rest = path.rest
  root : match Dict.get? em.scope path.root with
    | some v => (∃ n, (Path.parse m.property).root = aliasName path.root n) ∧
      Dict.get? b.additional (Path.parse m.property).root = some v
    | none => (Path.parse m.property).first = path.first ∧ Dict.get? b.additional path.root = none

namespace BoundSql

variable {b : BoundSql} {parameter : Value} {m : ParameterMapping} {em : Emission} {path : Path}

/-- Paths of the same steps lead to the same part of the parameter. -/
theorem find?_free {b' : BoundSql} {path' : Path} (h : Dict.get? b.additional path.root = none)
    (h' : Dict.get? b'.additional path'.root = none) (hfirst : path.first = path'.first) (hrest : path.rest = path'.rest) :
    b.find? parameter path = b'.find? parameter path' := by
  have hroot : path.root = path'.root := congrArg Step.name hfirst
  have hsteps : path.steps = path'.steps := by rw [Path.steps, hfirst, hrest, Path.steps]
  unfold find?
  rw [h, h']
  cases parameter <;> simp only [hroot, hrest, hsteps]

theorem Maps.resolve (h : b.Maps m em path) {v : Value} :
    b.resolve parameter m = .ok v ↔ em.value? parameter path = some v := by
  have hmode : m.mode ≠ .output := by rw [h.mode]; decide
  have hroot := h.root
  rw [resolve_input_ok hmode, Emission.value?]
  cases hscope : Dict.get? em.scope path.root with
  | some w =>
    rw [hscope] at hroot
    unfold find?
    simp only [hroot.2, h.rest]
  | none =>
    rw [hscope] at hroot
    have hsame : (Path.parse m.property).root = path.root := congrArg Step.name hroot.1
    have hfree : Dict.get? b.additional (Path.parse m.property).root = none := hsame ▸ hroot.2
    have hfind : b.find? parameter (Path.parse m.property) = find? ⟨⟨"", []⟩, []⟩ parameter path :=
      find?_free hfree (Dict.get?_nil _) hroot.1 h.rest
    rw [hfind]

/-- What the engine extracts for a placeholder that carries an emission. -/
theorem maps_of_carries {e : Engine} {lo hi : Nat} {raw : List Char} (h : Carries lo hi b.additional raw em)
    (hfree : ∀ x, isVariable x = true → Dict.get? b.additional x = none)
    (hm : Scope.Reads (.ofList (e.shown (unescape raw))) m) : b.Maps m em (e.pathOf em) := by
  obtain ⟨hroot, hfront, hfront', hcontent, ⟨⟨steps, after, htail, hsteps, hcomma, hafter⟩, -⟩, hrefers⟩ := h
  rename_i front front' tail root name
  obtain ⟨hne, hname⟩ := hrefers.name_ok hroot
  obtain ⟨hrootne, hrootname, -⟩ := isVariable_iff.1 hroot
  obtain ⟨hslash, -⟩ := plain_notMem (a := front ++ name.toList) fun c hc => (List.mem_append.1 hc).imp (hfront c) (hname c)
  have hraw : unescape (front ++ (name.toList ++ tail)) = front ++ (name.toList ++ steps) ++ after := by
    rw [← List.append_assoc, unescape_append hslash, htail]
    simp
  -- The text after renaming and the one in the template spell the same steps after different roots.
  have hspelled : Spelled (unescape (front ++ (name.toList ++ tail))) name.toList steps :=
    ⟨⟨front, after, hfront, hafter, hraw⟩, hne, hname, hsteps⟩
  have hwritten : Spelled em.content.toList root.toList steps :=
    ⟨⟨front', after, hfront', hafter, by rw [hcontent, htail]; simp⟩, hrootne, hrootname, hsteps⟩
  have hcomma' : ',' ∉ e.shown steps := by
    unfold Engine.shown
    split_ifs
    · exact fun hmem => hcomma ((Text.mem_squeeze hmem).resolve_left (by decide))
    · exact hcomma
  have hshown := Engine.shown_spelled (e := e) hspelled
  obtain ⟨hproperty, hmode⟩ := hshown.reads hcomma' hm
  have hparse := hshown.bare.parse_eq
  rw [← hproperty, String.ofList_toList] at hparse
  have hpath := Engine.pathOf_eq (e := e) hwritten
  rw [(Engine.shown_spelled hwritten).parse_eq, String.ofList_toList] at hpath
  refine ⟨hmode, by rw [hparse, hpath], ?_⟩
  rw [hparse, hpath]
  change match Dict.get? em.scope root with
    | some v => (∃ n, name = aliasName root n) ∧ Dict.get? b.additional name = some v
    | none => Step.property name = Step.property root ∧ Dict.get? b.additional root = none
  unfold Refers at hrefers
  -- A variable is found under its alias. Any other root still stands there, and nothing is bound under it.
  cases hv : Dict.get? em.scope root with
  | some v =>
    rw [hv] at hrefers
    obtain ⟨n, -, -, hn, hget⟩ := hrefers
    exact ⟨⟨n, hn⟩, hget⟩
  | none =>
    rw [hv] at hrefers
    exact ⟨congrArg Step.property hrefers, hfree root hroot⟩

/-- The mappings of a statement are those of its emissions. -/
theorem maps_of_spells {e : Engine} {lo hi : Nat} {sql : String} {ems : List Emission}
    (h : Spells lo hi b.additional sql ems) (hfree : ∀ x, isVariable x = true → Dict.get? b.additional x = none)
    (hms : List.Forall₂ Scope.Reads (placeholder.tokens (e.finish sql)) b.mappings) :
    List.Forall₂ (fun m em => b.Maps m em (e.pathOf em)) b.mappings ems := by
  obtain ⟨gs, rfl, htidy, hcarries⟩ := h
  rw [Engine.tokens_finish htidy, List.forall₂_map_left_iff] at hms
  exact (forall₂_join hms hcarries).imp fun _ _ ⟨_, hm, hc⟩ => maps_of_carries hc hfree hm

end BoundSql

namespace Node

theorem emissions_static (n : Node) (h : n.isStatic = true) :
    ∃ contents : List String, ∀ c, n.emissions c = contents.map (⟨·, []⟩) := by
  induction n using tree_induction with
  | text s => exact ⟨placeholder.tokens s, fun _ => rfl⟩
  | sequence nodes ih =>
    rw [isStatic] at h
    have hnodes := mem_isStatic h
    clear h
    induction nodes with
    | nil => exact ⟨[], fun _ => rfl⟩
    | cons n nodes ihs =>
      rw [List.forall_mem_cons] at ih hnodes
      obtain ⟨contents, hn⟩ := ih.1 hnodes.1
      obtain ⟨more, hrest⟩ := ihs ih.2 hnodes.2
      refine ⟨contents ++ more, fun c => ?_⟩
      rw [List.map_append, ← hn c]
      exact congrArg (n.emissions c ++ ·) (hrest _)
  | _ => cases h

end Node

namespace Engine

variable {e : Engine}

/-- A statement of a template: the template itself, or what it was compiled to. -/
inductive SourceOf (e : Engine) (root : Node) : Source → Prop
  | tree (type : ValueType) : SourceOf e root (.dynamic root type)
  | compiled {element : Element} {dynamic : Bool} {type : ValueType} {r r' : Registry} {source : Source}
    (ht : Template.ofElement element = .ok ⟨root, dynamic⟩) (h : run (e.compile element type) r = (.ok source, r')) :
    SourceOf e root source

theorem emits_of_run {root : Node} (hroot : root.isLoopTemplate = true) {parameter : Value} {a : Bool} {d : Context}
    (h : run root.render (Context.initial parameter e.databaseId) = (.ok a, d)) :
    Spells 0 d.counter d.bindings d.sql (root.emissions (Context.initial parameter e.databaseId)) ∧
      ∀ x, isVariable x = true → Dict.get? d.bindings x = none := by
  have hemits := root.render_emits hroot h
  have htext := Emits.text (c := Context.initial parameter e.databaseId) hemits
  refine ⟨htext.trim, fun x hx => ?_⟩
  obtain ⟨-, -, -, hparameter, hdatabase⟩ := isVariable_iff.1 hx
  rw [hemits.kept.bindings x (by simp) (older_variable hx _)]
  refine (Bindings.get?_initial parameter e.databaseId x).trans ?_
  rw [if_neg hparameter, if_neg hdatabase]

/-- What a template emits does not depend on the parameter if it is static, and has nothing to refer to. -/
theorem emits_of_static {root : Node} (hroot : root.isLoopTemplate = true) (hstatic : root.isStatic = true) {a : Bool} {d : Context}
    {parameter : Value} (h : run root.render (Context.initial parameter e.databaseId) = (.ok a, d)) (c : Context) :
    Spells 0 d.counter [] d.sql (root.emissions c) := by
  obtain ⟨contents, hems⟩ := root.emissions_static hstatic
  obtain ⟨⟨gs, hsql, htidy, hcarries⟩, -⟩ := emits_of_run hroot h
  refine ⟨gs, hsql, htidy, ?_⟩
  rw [hems, List.forall₂_map_right_iff] at hcarries ⊢
  exact hcarries.imp fun _ _ hc => hc.unscoped rfl

theorem maps_of_dynamic {root : Node} (hroot : root.isLoopTemplate = true) {type : ValueType} {parameter : Value} {b : BoundSql}
    {r r' : Registry} (h : run (e.bind (.dynamic root type) parameter) r = (.ok b, r')) :
    List.Forall₂ (fun m em => b.Maps m em (e.pathOf em)) b.mappings (root.emissions (Context.initial parameter e.databaseId)) := by
  obtain ⟨sql, hrender, hextract⟩ := bind_dynamic_ok.1 h
  obtain ⟨a, d, hrun, rfl, hbindings⟩ := render_ok.1 hrender
  obtain ⟨hspells, hfree⟩ := emits_of_run hroot hrun
  rw [← hbindings] at hspells hfree
  exact BoundSql.maps_of_spells hspells hfree (Scope.extract_ok hextract).2

theorem maps_of_fixed {element : Element} {root : Node} {dynamic : Bool} {type : ValueType} {marked : MarkedSql} {r r' : Registry}
    (hroot : root.isLoopTemplate = true) (ht : Template.ofElement element = .ok ⟨root, dynamic⟩)
    (h : run (e.compile element type) r = (.ok (.fixed marked), r')) (c : Context) :
    List.Forall₂ (fun m em => (⟨marked, []⟩ : BoundSql).Maps m em (e.pathOf em)) marked.mappings (root.emissions c) := by
  obtain ⟨t, sql, bindings, ht', hd, hrender, hextract⟩ := compile_fixed h
  cases ht.symm.trans ht'
  obtain ⟨a, d, hrun, rfl, -⟩ := render_ok.1 hrender
  have hspells := emits_of_static hroot (Template.root_isStatic ht hd) hrun c
  exact BoundSql.maps_of_spells (b := ⟨marked, []⟩) hspells (fun _ _ => rfl) (Scope.extract_ok hextract).2

/-- A template of texts, sequences and loops. Whatever the parameter, the mappings are those of the placeholders that the rendering
emitted, in order, and the values are the ones that their paths have where they were emitted. -/
theorem values_of_iterations (e : Engine) {root : Node} (hroot : root.isLoopTemplate = true) {source : Source}
    (hsource : e.SourceOf root source) {parameter : Value} {b : BoundSql} {r r' : Registry}
    (h : run (e.bind source parameter) r = (.ok b, r')) :
    List.Forall₂ (fun m em => b.Maps m em (e.pathOf em)) b.mappings (root.emissions (Context.initial parameter e.databaseId)) ∧
      ∀ values, b.resolveAll parameter = .ok values →
        List.Forall₂ (fun em v => em.value? parameter (e.pathOf em) = some v)
          (root.emissions (Context.initial parameter e.databaseId)) values := by
  have hmaps : List.Forall₂ (fun m em => b.Maps m em (e.pathOf em)) b.mappings
      (root.emissions (Context.initial parameter e.databaseId)) := by
    cases hsource with
    | tree type => exact maps_of_dynamic hroot h
    | compiled ht hcompile =>
      cases source with
      | dynamic root' type =>
        obtain ⟨t, ht', rfl⟩ := compile_dynamic hcompile
        cases ht.symm.trans ht'
        exact maps_of_dynamic hroot h
      | fixed marked =>
        obtain ⟨rfl, -⟩ := bind_fixed_ok.1 h
        exact maps_of_fixed hroot ht hcompile _
  refine ⟨hmaps, fun values hvalues => ?_⟩
  exact (forall₂_join hmaps (BoundSql.resolveAll_ok.1 hvalues)).imp fun _ _ ⟨_, hm, hv⟩ => hm.resolve.1 hv

/-- A loop in a loop of the same name, with a placeholder of the parameter between its turns. -/
theorem values_of_iterations_nested :
    let tags : Loop := ⟨.ident "x", some "x", none, none, none, some "#{n}"⟩
    let rows : Loop := ⟨.ident "rows", some "x", some "i", none, none, some ","⟩
    let root : Node := .loop rows (.sequence [.text "#{ i }", .loop tags (.text "#{x.id}")])
    let e : Engine := ⟨[], none, .question, false, []⟩
    let parameter : Value := .map [("n", .int 9),
      ("rows", .list [.list [.map [("id", .int 1)], .map [("id", .int 2)]], .list [.map [("id", .int 3)]]])]
    ∃ b r values, root.isLoopTemplate = true ∧ run (e.bind (.dynamic root .object) parameter) (.builtin .name) = (.ok b, r) ∧
      b.resolveAll parameter = .ok values ∧ values.map Value.text = ["0", "1", "9", "2", "1", "3"] ∧
      List.Forall₂ (fun em v => em.value? parameter (e.pathOf em) = some v)
        (root.emissions (Context.initial parameter none)) values := by
  intro tags rows root e parameter
  have hroot : root.isLoopTemplate = true := by decide +kernel
  have htexts : ((run (e.bind (.dynamic root .object) parameter) (.builtin .name)).1.toOption.bind fun b =>
      (b.resolveAll parameter).toOption.map (·.map Value.text)) = some ["0", "1", "9", "2", "1", "3"] := by decide +kernel
  obtain ⟨b, hb, hvalues⟩ := Option.bind_eq_some_iff.1 htexts
  obtain ⟨values, hvalues, htexts⟩ := Option.map_eq_some_iff.1 hvalues
  have hok := toOption_eq_some.1 hvalues
  exact ⟨b, _, values, hroot, run_of_toOption hb, hok, htexts,
    (values_of_iterations e hroot (.tree .object) (run_of_toOption hb)).2 values hok⟩

/-- A comma in an index ends the path, shrinking the statement changes an index with several blanks in a row, and a form feed does
not end a name. None of these placeholders gets the value that its path has in the iteration. -/
theorem path_not_followed :
    let root (text : String) : Node := .loop ⟨.ident "ids", some "x", none, none, none, none⟩ (.text text)
    let parameter (item : Value) : Value := .map [("ids", .list [item])]
    let wanted (text : String) (item : Value) : List (Option String) :=
      ((root text).emissions (Context.initial (parameter item) none)).map fun em =>
        if (Path.readSteps? (Text.trim em.content.toList)).isSome then
          (em.value? (parameter item) (Path.parse em.content)).map Value.text
        else none
    let bound (shrink : Bool) (text : String) (item : Value) : Option (List String) :=
      (run ((⟨[], none, .question, shrink, []⟩ : Engine).bind (.dynamic (root text) .object) (parameter item))
        (.builtin .name)).1.toOption.bind fun b => (b.resolveAll (parameter item)).toOption.map (·.map Value.text)
    wanted "#{x[a,resultMap=b]}" (.map [("a,resultMap=b", .int 1)]) = [some "1"] ∧
      bound false "#{x[a,resultMap=b]}" (.map [("a,resultMap=b", .int 1)]) = some ["null"] ∧
      wanted "#{x[a  b]}" (.map [("a  b", .int 1)]) = [some "1"] ∧
      bound true "#{x[a  b]}" (.map [("a  b", .int 1)]) = some ["null"] ∧
      -- a form feed after the root
      wanted "#\x7bx\x0c\x7d" (.int 1) = [some "1"] ∧ bound false "#\x7bx\x0c\x7d" (.int 1) = some ["null"] := by
  decide +kernel

end Engine

end SqlTemplate
