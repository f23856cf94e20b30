import SqlTemplate.Proofs.Engine.Success
import SqlTemplate.Proofs.Mapping.Extraction
import SqlTemplate.Proofs.Mapping.Values
import SqlTemplate.Proofs.Rendering.Disturbance
import SqlTemplate.Proofs.Token.Leading
import SqlTemplate.Proofs.Token.Shrink

/-! # What later nodes change

Nodes added to a template leave the placeholders before them as they are and in their places. Values are looked up once everything
is rendered, though. A placeholder keeps its value only if the later nodes leave alone what its path begins with.
-/

namespace SqlTemplate

open SqlTemplate.Computation

/-! ## Places -/

theorem Context.sql_leads {c d : Context} {texts : List String} (h : d.fragments = c.fragments ++ texts) :
    Leads c.sql.toList d.sql.toList := by
  unfold Context.sql Text.trimString
  rw [String.toList_ofList, String.toList_ofList, h]
  exact (Leads.join c.fragments texts).trim

namespace Engine

variable {e : Engine} {c d : Context}

/-- What is written later comes after the placeholders before it, whether or not statements are shrunk. -/
theorem tokens_later {texts : List String} (h : d.fragments = c.fragments ++ texts) (hclosed : isClosed c.sql.toList = true) :
    ∃ more, placeholder.tokens (e.finish d.sql) = placeholder.tokens (e.finish c.sql) ++ more := by
  have hleads := Context.sql_leads h
  rw [← Glyph.text_read c.sql.toList] at hleads
  obtain ⟨more, hmore⟩ := hleads.tokens (Glyph.sound_read (closed_of_isClosed hclosed))
  rw [Glyph.text_read, String.ofList_toList, String.ofList_toList] at hmore
  unfold finish
  cases e.shrink
  · exact ⟨more, hmore⟩
  · refine ⟨more.map fun content => .ofList (Text.squeeze content.toList), ?_⟩
    rw [if_pos rfl, if_pos rfl, tokens_shrinkString, tokens_shrinkString, hmore, List.map_append]

/-- Where a rendering of the nodes ends. -/
def after (e : Engine) (nodes : List Node) (parameter : Value) : Context :=
  (run (Node.sequence nodes).render (Context.initial parameter e.databaseId)).2

theorem bind_sequence_ok {nodes : List Node} {type : ValueType} {parameter : Value} {b : BoundSql} {r r' : Registry}
    (h : run (e.bind (.dynamic (.sequence nodes) type) parameter) r = (.ok b, r')) :
    run (Node.renderAll nodes) (Context.initial parameter e.databaseId) = (.ok ⟨⟩, e.after nodes parameter) ∧
      b.additional = (e.after nodes parameter).bindings ∧
      List.Forall₂ Scope.Reads (placeholder.tokens (e.finish (e.after nodes parameter).sql)) b.mappings := by
  obtain ⟨sql, hrender, hextract⟩ := bind_dynamic_ok.1 h
  obtain ⟨a, d, hrun, rfl, hbindings⟩ := render_ok.1 hrender
  have hafter : e.after nodes parameter = d := by rw [after, hrun]
  rw [hafter]
  exact ⟨(Node.render_sequence_ok.1 hrun).2, hbindings, (Scope.extract_ok hextract).2⟩

end Engine

/-! ## Values -/

namespace BoundSql

variable {b b' : BoundSql} {parameter : Value} {path : Path}

theorem find?_of_root (h : Dict.get? b.additional path.root = Dict.get? b'.additional path.root) :
    b.find? parameter path = b'.find? parameter path := by
  unfold find?
  rw [h]

/-- A parameter without properties stands for every name that is not bound. -/
theorem find?_plain (hplain : parameter.isPlain = true) (h : Dict.get? b.additional path.root = none) :
    b.find? parameter path = some parameter := by
  unfold find?
  rw [h]
  cases parameter with
  | list _ => cases hplain
  | map _ => cases hplain
  | _ => rfl

/-- The later nodes leave alone what the path begins with, which is no alias that their loops may bind. They may bind a parameter
without properties under its name, since a path of one step leads to it either way. -/
structure Undisturbed (b : BoundSql) (parameter : Value) (counter : Nat) (later : Node) (path : Path) : Prop where
  older : Older counter path.root
  root : ¬ later.Disturbs false path.root ∨
    ¬ later.Disturbs true path.root ∧ Dict.get? b.additional parameterKey = some parameter ∧
      (path.rest = [] ∨ (Dict.get? b.additional path.root).isSome ∨ parameter.isPlain = false)

theorem Undisturbed.find?_eq {later : Node} {c d : Context} (hc : b.additional = c.bindings) (hd : b'.additional = d.bindings)
    (hspares : ∀ implicit, Spares implicit (later.Disturbs implicit) c d)
    (h : b.Undisturbed parameter c.counter later path) : b.find? parameter path = b'.find? parameter path := by
  rcases h.root with hroot | ⟨hroot, hparameter, hpath⟩
  · rcases (hspares false).bindings _ hroot h.older with hsame | ⟨himplicit, -⟩
    · exact find?_of_root (by rw [hc, hd, hsame])
    · cases himplicit
  · rcases (hspares true).bindings _ hroot h.older with hsame | ⟨-, -, hnone, hplain, hbound⟩
    · exact find?_of_root (by rw [hc, hd, hsame])
    · -- Unbound it stands for the whole parameter, and bound for the parameter and then the rest of the path.
      have hwhole : c.bindings.parameter = parameter := by rw [Bindings.parameter, ← hc, hparameter]; rfl
      rw [hwhole] at hplain hbound
      rw [← hc] at hnone
      have hrest : path.rest = [] := by simpa [hnone, hplain] using hpath
      rw [find?_plain hplain hnone]
      unfold find?
      rw [hd, hbound, hrest]
      rfl

end BoundSql

namespace Engine

/-- Nodes that come later. The mappings of the placeholders before them are still the first, with the same paths and modes. Each has the
same value, unless the later nodes disturb its path. -/
theorem mappings_before (e : Engine) (nodes later : List Node) (type : ValueType) (parameter : Value) {b b' : BoundSql}
    {r s r' s' : Registry} (h : run (e.bind (.dynamic (.sequence nodes) type) parameter) r = (.ok b, s))
    (h' : run (e.bind (.dynamic (.sequence (nodes ++ later)) type) parameter) r' = (.ok b', s'))
    (hclosed : isClosed (e.after nodes parameter).sql.toList = true) :
    ∃ before rest, b'.mappings = before ++ rest ∧
      List.Forall₂ (fun m m' => m.property = m'.property ∧ m.mode = m'.mode ∧
          (m.mode = .output ∨ b.Undisturbed parameter (e.after nodes parameter).counter (.sequence later) (Path.parse m.property) →
            ∀ v, b.resolve parameter m = .ok v ↔ b'.resolve parameter m' = .ok v))
        b.mappings before := by
  obtain ⟨hrun, hbindings, hreads⟩ := bind_sequence_ok h
  obtain ⟨hrun', hbindings', hreads'⟩ := bind_sequence_ok h'
  obtain ⟨c, hnodes, hlater⟩ := Node.renderAll_append_ok.1 hrun'
  obtain ⟨-, rfl⟩ := ok_inj.1 (hrun.symm.trans hnodes)
  have hspares (implicit : Bool) : Spares implicit ((Node.sequence later).Disturbs implicit) (e.after nodes parameter)
      (e.after (nodes ++ later) parameter) :=
    Node.render_spares _ (Node.render_sequence_ok.2 ⟨rfl, hlater⟩)
  obtain ⟨texts, hfragments⟩ := (hspares false).written
  obtain ⟨more, htokens⟩ := e.tokens_later hfragments hclosed
  rw [htokens] at hreads'
  have hbefore := (List.forall₂_take_append _ _ _ hreads'.flip).flip
  refine ⟨_, _, (List.take_append_drop _ _).symm, (Scope.reads_same hreads hbefore).imp ?_⟩
  rintro m m' ⟨hproperty, hmode⟩
  refine ⟨hproperty, hmode, fun hpath v => ?_⟩
  exact BoundSql.resolve_congr hproperty hmode (hpath.imp_right (BoundSql.Undisturbed.find?_eq hbindings hbindings' hspares))

/-- A later loop over the same name gives it back. -/
theorem mappings_before_loop :
    let e : Engine := ⟨[], none, .question, false, []⟩
    let later : List Node := [.bind "y" (.literal (.int 5)), .loop ⟨.ident "ids", some "x", none, none, none, none⟩ (.text "#{x}")]
    let parameter : Value := .map [("ids", .list [.int 2]), ("x", .int 1)]
    ∃ b b' s s', run (e.bind (.dynamic (.sequence [.text "#{x}"]) .object) parameter) (.builtin .name) = (.ok b, s) ∧
      run (e.bind (.dynamic (.sequence ([.text "#{x}"] ++ later)) .object) parameter) (.builtin .name) = (.ok b', s') ∧
      b.mappings.map (·.property) = ["x"] ∧
      ∃ m rest, b'.mappings = m :: rest ∧ m.property = "x" ∧
        ∀ v, b.resolveAll parameter = .ok [v] ↔ b'.resolve parameter m = .ok v := by
  intro e later parameter
  obtain ⟨b, hb, hproperties⟩ := Option.map_eq_some_iff.1 (show (run (e.bind (.dynamic (.sequence [.text "#{x}"]) .object) parameter)
    (.builtin .name)).1.toOption.map (·.mappings.map (·.property)) = some ["x"] by decide +kernel)
  obtain ⟨b', hb'⟩ := Option.isSome_iff_exists.1 (show (run (e.bind (.dynamic (.sequence ([.text "#{x}"] ++ later)) .object) parameter)
    (.builtin .name)).1.toOption.isSome by decide +kernel)
  refine ⟨b, b', _, _, run_of_toOption hb, run_of_toOption hb', hproperties, ?_⟩
  obtain ⟨before, rest, hmappings, hbefore⟩ := mappings_before e [.text "#{x}"] later .object parameter (run_of_toOption hb)
    (run_of_toOption hb') (by decide +kernel)
  obtain ⟨m, hm, hx⟩ := List.map_eq_singleton_iff.1 hproperties
  rw [hm, List.forall₂_cons_left_iff] at hbefore
  obtain ⟨m', _, ⟨hproperty, -, hvalue⟩, hnil, rfl⟩ := hbefore
  cases hnil
  have hroot : (Path.parse "x").root = "x" := by decide +kernel
  -- The first node binds another name, and the loop has the name among its own.
  have hlater : ¬ (Node.sequence later).Disturbs false "x" := by
    rintro (_ | _ | _ | _ | _ | _ | ⟨hmem, hn⟩)
    generalize hx : "x" = x at hn
    rcases List.mem_pair.1 hmem with rfl | rfl
    · cases hn with
      | bind => exact absurd hx (by decide)
      | bindParameter himplicit _ => cases himplicit
    · cases hn with
      | loop hnames _ => exact hnames (hx ▸ List.mem_cons_self)
      | loopParameter himplicit _ => cases himplicit
      | bodyParameter himplicit _ => cases himplicit
  refine ⟨m', rest, hmappings, hproperty.symm.trans hx, fun v => ?_⟩
  rw [← hvalue (.inr ⟨?_, .inl ?_⟩), BoundSql.resolveAll_ok, hm]
  · simp
  · rw [hx, hroot]
    exact older_variable (by decide +kernel) _
  · rwa [hx, hroot]

/-- A later node that binds a name changes the value of a placeholder that was written before it. So does text with substitutions,
by which a path of several steps no longer leads anywhere. -/
theorem value_rebound :
    let e : Engine := ⟨[], none, .question, false, []⟩
    let values (nodes : List Node) (parameter : Value) : Option (List String) :=
      (run (e.bind (.dynamic (.sequence nodes) .object) parameter) (.builtin .name)).1.toOption.bind fun b =>
        (b.resolveAll parameter).toOption.map (·.map Value.text)
    let closed (nodes : List Node) (parameter : Value) : Bool := isClosed (e.after nodes parameter).sql.toList
    closed [.text "#{x}"] (.map [("x", .int 1)]) = true ∧
      values [.text "#{x}"] (.map [("x", .int 1)]) = some ["1"] ∧
      values ([.text "#{x}"] ++ [.bind "x" (.literal (.int 5))]) (.map [("x", .int 1)]) = some ["5"] ∧
      closed [.text "#{value.id}"] (.int 1) = true ∧
      values [.text "#{value.id}"] (.int 1) = some ["1"] ∧
      values ([.text "#{value.id}"] ++ [.substituted "" [.text ""]]) (.int 1) = none := by
  decide +kernel

end Engine

end SqlTemplate
