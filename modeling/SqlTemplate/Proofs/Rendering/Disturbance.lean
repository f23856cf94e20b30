import SqlTemplate.Proofs.Rendering.Emitted

/-! # What a rendering leaves as it was

A rendering adds fragments and never takes one back. It leaves every binding as it was but for the names that a node of it binds,
and a loop gives its own names back. Text with substitutions binds a parameter without properties under its name.
-/

namespace SqlTemplate

open SqlTemplate.Computation

/-- Whether a rendering of the node may leave the name bound to something else. If `implicit` is set, the name of a parameter
without properties counts as bound to it all along, and so what changes the parameter disturbs this name. -/
inductive Node.Disturbs (implicit : Bool) : Node → String → Prop
  | bind {name : String} {value : Expr} : Disturbs implicit (.bind name value) name
  | conditional {name : String} {test : Expr} {body : Node} :
    Disturbs implicit body name → Disturbs implicit (.conditional test body) name
  | when {name : String} {whens : List (Expr × Node)} {otherwise : Option Node} {w : Expr × Node} :
    w ∈ whens → Disturbs implicit w.2 name → Disturbs implicit (.choose whens otherwise) name
  | otherwise {name : String} {whens : List (Expr × Node)} {body : Node} :
    Disturbs implicit body name → Disturbs implicit (.choose whens (some body)) name
  | clause {name : String} {kind : ClauseKind} {c : Clause} {body : Node} :
    Disturbs implicit body name → Disturbs implicit (.clause kind c body) name
  | loop {name : String} {l : Loop} {body : Node} :
    name ∉ l.names → Disturbs implicit body name → Disturbs implicit (.loop l body) name
  | sequence {name : String} {nodes : List Node} {n : Node} :
    n ∈ nodes → Disturbs implicit n name → Disturbs implicit (.sequence nodes) name
  | substituted {source : String} {segments : List Segment} :
    implicit = false → Disturbs implicit (.substituted source segments) scalarKey
  | bindParameter {name : String} {value : Expr} :
    implicit = true → name = parameterKey → Disturbs implicit (.bind name value) scalarKey
  | loopParameter {l : Loop} {body : Node} :
    implicit = true → parameterKey ∈ l.names → Disturbs implicit (.loop l body) scalarKey
  | bodyParameter {l : Loop} {body : Node} :
    implicit = true → Disturbs implicit body parameterKey → Disturbs implicit (.loop l body) scalarKey

/-- A parameter without properties. -/
def Value.isPlain (v : Value) : Bool := v.isNull || v.isScalar

namespace Render

theorem bindScalar_bindings (c : Context) (k : String) :
    Dict.get? (run bindScalar c).2.bindings k = Dict.get? c.bindings k ∨
      (k = scalarKey ∧ Dict.get? c.bindings scalarKey = none ∧ c.bindings.parameter.isPlain = true ∧
        Dict.get? (run bindScalar c).2.bindings k = some c.bindings.parameter) := by
  rw [bindScalar_get?]
  split_ifs with h
  · exact .inr ⟨h.1, h.2.1, h.2.2, rfl⟩
  · exact .inl rfl

end Render

/-- What a rendering does to a context, given the names that it may leave bound to something else. -/
structure Spares (implicit : Bool) (off : String → Prop) (c d : Context) : Prop where
  written : ∃ texts, d.fragments = c.fragments ++ texts
  counter : c.counter ≤ d.counter
  bindings : ∀ k, ¬ off k → Older c.counter k → Dict.get? d.bindings k = Dict.get? c.bindings k ∨
    (implicit = true ∧ k = scalarKey ∧ Dict.get? c.bindings k = none ∧ c.bindings.parameter.isPlain = true ∧
      Dict.get? d.bindings k = some c.bindings.parameter)

theorem older_parameterKey (n : Nat) : Older n parameterKey := by
  rintro x m - heq
  have hprefix := aliasPrefix_aliasName x m
  rw [← heq] at hprefix
  exact absurd hprefix (by decide)

namespace Spares

variable {implicit : Bool} {off off' : String → Prop} {c d e : Context}

theorem refl (c : Context) : Spares implicit off c c := ⟨⟨[], (List.append_nil _).symm⟩, le_refl _, fun _ _ _ => .inl rfl⟩

theorem mono (h : Spares implicit off c d) (hoff : ∀ k, off k → off' k) : Spares implicit off' c d :=
  ⟨h.written, h.counter, fun k hk => h.bindings k fun hk' => hk (hoff k hk')⟩

theorem parameter (h : Spares implicit off c d) (hoff : ¬ off parameterKey) : d.bindings.parameter = c.bindings.parameter := by
  unfold Bindings.parameter
  rcases h.bindings parameterKey hoff (older_parameterKey _) with heq | ⟨-, hkey, -⟩
  · rw [heq]
  · exact absurd hkey (by decide)

theorem trans (hparameter : implicit = true → off parameterKey → off scalarKey) (h : Spares implicit off c d)
    (h' : Spares implicit off d e) : Spares implicit off c e := by
  obtain ⟨texts, hd⟩ := h.written
  obtain ⟨texts', he⟩ := h'.written
  refine ⟨⟨texts ++ texts', by rw [he, hd, List.append_assoc]⟩, le_trans h.counter h'.counter, fun k hk hold => ?_⟩
  have hfirst := h.bindings k hk hold
  rcases h'.bindings k hk (hold.mono h.counter) with hsame | ⟨himplicit, rfl, hnone, hplain, hbound⟩
  · rw [hsame]
    exact hfirst
  · -- The name was bound only now, and to the parameter as it was at first.
    have hsame := h.parameter fun hoff => hk (hparameter himplicit hoff)
    rw [hsame] at hplain hbound
    rcases hfirst with hd | ⟨-, -, -, -, hd⟩
    · exact .inr ⟨himplicit, rfl, hd.symm.trans hnone, hplain, hbound⟩
    · rw [hnone] at hd
      cases hd

/-- What is written into a buffer of its own leaves no more than its bindings. -/
theorem captured (h : Spares implicit off { c with fragments := [] } d) (texts : List String) :
    Spares implicit off c { d with fragments := c.fragments ++ texts } :=
  ⟨⟨texts, rfl⟩, h.counter, h.bindings⟩

theorem ofKept {names : List String} (h : Kept names c d) (hfragments : d.fragments = c.fragments) :
    Spares implicit (· ∈ names) c d :=
  ⟨⟨[], by rw [hfragments, List.append_nil]⟩, h.counter, fun k hk hold => .inl (h.bindings k hk hold)⟩

end Spares

namespace Loop

variable {implicit : Bool} {l : Loop} {body : Render Bool} {off : String → Prop} {c d : Context}

/-- The names that the turns of a loop may leave bound to something else. -/
def Unsettles (implicit : Bool) (l : Loop) (off : String → Prop) (k : String) : Prop :=
  k ∈ l.names ∨ off k ∨ (implicit = true ∧ k = scalarKey ∧ parameterKey ∈ l.names)

theorem iterate_spares (hparameter : implicit = true → off parameterKey → off scalarKey)
    (hbody : ∀ c d a, run body c = (.ok a, d) → Spares implicit off c d) {entries : List (Value × Value)} {bodies : List String}
    (h : run (l.iterate body entries) c = (.ok bodies, d)) :
    Spares implicit (l.Unsettles implicit off) c d ∧ d.fragments = c.fragments := by
  have hunsettles : implicit = true → l.Unsettles implicit off parameterKey → l.Unsettles implicit off scalarKey := by
    rintro himplicit (hmem | hoff | ⟨-, hkey, -⟩)
    · exact .inr (.inr ⟨himplicit, rfl, hmem⟩)
    · exact .inr (.inl (hparameter himplicit hoff))
    · exact absurd hkey (by decide)
  induction entries generalizing c bodies with
  | nil =>
    obtain ⟨-, rfl⟩ := iterate_nil_ok.1 h
    exact ⟨.refl _, rfl⟩
  | cons entry entries ih =>
    obtain ⟨key, value⟩ := entry
    obtain ⟨a, inner, rest, hrun, hrest, -⟩ := iterate_cons_ok.1 h
    obtain ⟨hspares, hfragments⟩ := ih hrest
    -- Entering a turn binds the names of the loop, and the body is rendered into a buffer of its own.
    have henter : Kept l.names c (l.enter key value c) :=
      ⟨(l.enter_kept key value c).counter, (l.enter_kept key value c).bindings⟩
    have hturn : Spares implicit (l.Unsettles implicit off) (l.enter key value c) { inner with fragments := c.fragments } := by
      have hinner := (hbody _ _ _ hrun).captured []
      rw [List.append_nil, enter_fragments] at hinner
      exact hinner.mono fun k hk => .inr (.inl hk)
    have hfirst : Spares implicit (l.Unsettles implicit off) c (l.enter key value c) :=
      (Spares.ofKept henter (enter_fragments _ _ _)).mono fun k hk => .inl hk
    exact ⟨(hfirst.trans hunsettles hturn).trans hunsettles hspares, hfragments⟩

theorem leave_spares (h : Spares implicit (l.Unsettles implicit off) c d) (hfragments : d.fragments = c.fragments) :
    Spares implicit (fun k => (k ∉ l.names ∧ off k) ∨ (implicit = true ∧ k = scalarKey ∧ parameterKey ∈ l.names)) c
      (l.leave c d) := by
  refine ⟨⟨[], by simp [hfragments]⟩, by simpa using h.counter, fun k hk hold => ?_⟩
  rw [get?_leave]
  -- A name of the loop is bound as before it, so that only what the turns do to other names is seen outside.
  split_ifs with hmem
  · exact .inl rfl
  · refine h.bindings k ?_ hold
    rintro (hname | hoff | hscalar)
    · exact hmem hname
    · exact hk (.inl ⟨hmem, hoff⟩)
    · exact hk (.inr hscalar)

theorem render_spares (hparameter : implicit = true → off parameterKey → off scalarKey)
    (hbody : ∀ c d a, run body c = (.ok a, d) → Spares implicit off c d) {a : Bool} (h : run (l.render body) c = (.ok a, d)) :
    Spares implicit (fun k => (k ∉ l.names ∧ off k) ∨ (implicit = true ∧ k = scalarKey ∧ parameterKey ∈ l.names)) c d := by
  obtain ⟨entries, -, ⟨-, -, rfl⟩ | ⟨-, bodies, after, hiter, -, rfl⟩⟩ := render_ok h
  · exact .refl _
  · obtain ⟨hspares, hfragments⟩ := iterate_spares hparameter hbody hiter
    have hleave := leave_spares hspares hfragments
    split_ifs
    · exact hleave
    · exact ⟨⟨[l.join bodies], by simp [Context.append, hfragments]⟩, hleave.counter, hleave.bindings⟩

end Loop

namespace Node

variable {implicit : Bool}

/-- What changes the parameter disturbs the name that a parameter without properties has. -/
theorem Disturbs.scalar {n : Node} (himplicit : implicit = true) (h : n.Disturbs implicit parameterKey) :
    n.Disturbs implicit scalarKey := by
  generalize hk : parameterKey = k at h
  induction h with
  | bind => exact .bindParameter himplicit hk.symm
  | conditional _ ih => exact .conditional (ih hk)
  | when hmem _ ih => exact .when hmem (ih hk)
  | otherwise _ ih => exact .otherwise (ih hk)
  | clause _ ih => exact .clause (ih hk)
  -- The loop may bind that name itself, so that the hypothesis for the body is of no use.
  | loop _ hbody _ => exact .bodyParameter himplicit (hk ▸ hbody)
  | sequence hmem _ ih => exact .sequence hmem (ih hk)
  | substituted _ => exact absurd hk (by decide)
  | bindParameter _ _ => exact absurd hk (by decide)
  | loopParameter _ _ => exact absurd hk (by decide)
  | bodyParameter _ _ _ => exact absurd hk (by decide)

theorem renderAll_spares {nodes : List Node} {off : String → Prop} (hparameter : implicit = true → off parameterKey → off scalarKey)
    (h : ∀ n ∈ nodes, ∀ c d a, run n.render c = (.ok a, d) → Spares implicit off c d) {c d : Context}
    (hrun : run (renderAll nodes) c = (.ok ⟨⟩, d)) : Spares implicit off c d := by
  induction nodes generalizing c with
  | nil =>
    obtain rfl := renderAll_nil_ok.1 hrun
    exact .refl _
  | cons n nodes ih =>
    rw [List.forall_mem_cons] at h
    obtain ⟨a, e, hn, hrest⟩ := renderAll_cons_ok.1 hrun
    exact (h.1 c e a hn).trans hparameter (ih h.2 hrest)

theorem renderWhens_spares {whens : List (Expr × Node)} {off : String → Prop}
    (h : ∀ w ∈ whens, ∀ c d a, run w.2.render c = (.ok a, d) → Spares implicit off c d) {c d : Context} {b : Bool}
    (hrun : run (renderWhens whens) c = (.ok b, d)) : Spares implicit off c d := by
  induction whens with
  | nil =>
    obtain ⟨-, rfl⟩ := renderWhens_nil_ok.1 hrun
    exact .refl _
  | cons w whens ih =>
    obtain ⟨test, body⟩ := w
    rw [List.forall_mem_cons] at h
    obtain ⟨t, -, hrun⟩ := renderWhens_cons_ok.1 hrun
    cases t with
    | true =>
      obtain ⟨-, a, hbody⟩ := hrun
      exact h.1 c d a hbody
    | false => exact ih h.2 hrun

/-- A rendering spares every name that its nodes do not disturb. -/
theorem render_spares (n : Node) {c d : Context} {a : Bool} (h : run n.render c = (.ok a, d)) :
    Spares implicit (n.Disturbs implicit) c d := by
  induction n using tree_induction generalizing c d a with
  | text s =>
    obtain ⟨-, rfl⟩ := render_text_ok.1 h
    exact ⟨⟨[s], rfl⟩, le_refl _, fun _ _ _ => .inl rfl⟩
  | substituted source segments =>
    obtain ⟨-, s, e, hs, rfl⟩ := render_substituted_ok.1 h
    obtain ⟨rfl, -⟩ := Render.segments_ok.1 hs
    refine ⟨⟨[s], by simp [Context.append, bindScalar_fragments]⟩, by simp [Context.append, bindScalar_counter], fun k hk _ => ?_⟩
    refine (Render.bindScalar_bindings c k).imp_right ?_
    rintro ⟨rfl, hnone, hplain, hbound⟩
    -- The name is bound only where it was not. This counts as a change unless it stood for the parameter all along.
    cases implicit with
    | false => exact absurd (.substituted rfl) hk
    | true => exact ⟨rfl, rfl, hnone, hplain, hbound⟩
  | conditional test body ih =>
    obtain ⟨-, h⟩ := render_conditional_ok.1 h
    split_ifs at h
    · obtain ⟨b, hbody⟩ := h
      exact (ih hbody).mono fun _ => .conditional
    · obtain rfl := h
      exact .refl _
  | choose whens otherwise ihw iho =>
    have hwhens {c d : Context} {b : Bool} (h : run (renderWhens whens) c = (.ok b, d)) :
        Spares implicit ((Node.choose whens otherwise).Disturbs implicit) c d :=
      renderWhens_spares (fun w hw c d a h => (ihw w hw h).mono fun _ => .when hw) h
    rcases render_choose_ok.1 h with ⟨-, h⟩ | ⟨-, h⟩
    · exact hwhens h
    · cases otherwise with
      | none =>
        obtain ⟨-, rfl⟩ := renderOtherwise_none_ok.1 h
        exact .refl _
      | some body =>
        obtain ⟨-, b, hbody⟩ := renderOtherwise_some_ok.1 h
        exact (iho body rfl hbody).mono fun _ => .otherwise
  | clause kind cl body ih =>
    obtain ⟨b, e, hbody, -, rfl⟩ := render_clause_ok.1 h
    exact ((ih hbody).captured _).mono fun _ => .clause
  | loop l body ih =>
    refine (Loop.render_spares Disturbs.scalar (fun c d a => ih) h).mono ?_
    rintro k (⟨hmem, hbody⟩ | ⟨himplicit, rfl, hmem⟩)
    · exact .loop hmem hbody
    · exact .loopParameter himplicit hmem
  | bind name value =>
    obtain ⟨-, v, -, rfl⟩ := render_bind_ok.1 h
    refine ⟨⟨[], by simp [Context.bind]⟩, le_refl _, fun k hk _ => .inl (Dict.get?_insert_of_ne ?_ _ _)⟩
    rintro rfl
    exact hk .bind
  | sequence nodes ih =>
    obtain ⟨-, hall⟩ := render_sequence_ok.1 h
    exact renderAll_spares Disturbs.scalar (fun n hn c d a h => (ih n hn h).mono fun _ => .sequence hn) hall

end Node

end SqlTemplate
