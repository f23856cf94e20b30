import SqlTemplate.Proofs.Rendering.Emission
import SqlTemplate.Proofs.Template.Tree

/-! # A rendering carries what it emits

Aliases are numbered by iterations, so that none is ever bound twice. What a rendering writes carries its emissions, and a loop
adds the variables of each turn to the scopes of what the turn emitted.
-/

namespace SqlTemplate

open SqlTemplate.Computation

/-! ## What stays bound -/

/-- The name is no alias that an iteration from the number on may bind. -/
def Older (n : Nat) (name : String) : Prop := ∀ x m, n ≤ m → name ≠ aliasName x m

theorem Older.mono {m n : Nat} {name : String} (h : Older m name) (hle : m ≤ n) : Older n name :=
  fun x k hk => h x k (le_trans hle hk)

theorem older_alias {m n : Nat} (h : m < n) (x : String) : Older n (aliasName x m) := by
  intro y k hk heq
  have := (aliasName_inj.1 heq).2
  omega

theorem older_variable {name : String} (h : isVariable name = true) (n : Nat) : Older n name :=
  fun x m _ => ne_aliasName h x m

/-- Bindings are kept but for the names given and for the aliases of new iterations. -/
structure Kept (names : List String) (c d : Context) : Prop where
  counter : c.counter ≤ d.counter
  bindings : ∀ k, k ∉ names → Older c.counter k → Dict.get? d.bindings k = Dict.get? c.bindings k

namespace Kept

variable {names : List String} {c d e : Context}

theorem refl (names : List String) (c : Context) : Kept names c c := ⟨le_refl _, fun _ _ _ => rfl⟩

theorem trans (h : Kept names c d) (h' : Kept names d e) : Kept names c e :=
  ⟨le_trans h.counter h'.counter, fun k hk hold =>
    (h'.bindings k hk (hold.mono h.counter)).trans (h.bindings k hk hold)⟩

theorem widen (h : Kept [] c d) (names : List String) : Kept names c d :=
  ⟨h.counter, fun k _ hold => h.bindings k (by simp) hold⟩

theorem past (h : Kept names c d) (hnames : ∀ x ∈ names, isVariable x = true) (x : String) {n : Nat} (hn : n < c.counter) :
    Dict.get? d.bindings (aliasName x n) = Dict.get? c.bindings (aliasName x n) :=
  h.bindings _ (fun hmem => ne_aliasName (hnames _ hmem) x n rfl) (older_alias hn x)

end Kept

namespace Loop

variable {l : Loop} {c d : Context}

theorem get?_bound (n : Nat) (v : Value) (c : Context) (name k : String) :
    Dict.get? (bound n v c (some name)).bindings k =
      if k = name ∨ k = aliasName name n then some v else Dict.get? c.bindings k := by
  simp only [bound, Context.bind, Dict.get?_insert]
  by_cases hname : k = name
  · simp [hname]
  · by_cases hk : k = aliasName name n <;> simp [hname, hk]

theorem get?_bound_of_ne {n : Nat} {v : Value} {c : Context} {name : Option String} {k : String}
    (h : ∀ x ∈ name, k ≠ x ∧ k ≠ aliasName x n) : Dict.get? (bound n v c name).bindings k = Dict.get? c.bindings k := by
  cases name with
  | none => rfl
  | some name =>
    obtain ⟨hname, hk⟩ := h name rfl
    rw [get?_bound, if_neg (by simp [hname, hk])]

theorem enter_kept (l : Loop) (key value : Value) (c : Context) :
    Kept l.names c { l.enter key value c with fragments := [] } := by
  refine ⟨by simp, fun k hk hold => ?_⟩
  have hindex : ∀ x ∈ l.index, k ≠ x ∧ k ≠ aliasName x c.counter := fun x hx =>
    ⟨fun heq => hk (mem_names.2 (.inr (heq ▸ hx))), hold x _ (le_refl _)⟩
  have hitem : ∀ x ∈ l.item, k ≠ x ∧ k ≠ aliasName x c.counter := fun x hx =>
    ⟨fun heq => hk (mem_names.2 (.inl (heq ▸ hx))), hold x _ (le_refl _)⟩
  exact (get?_bound_of_ne hitem).trans (get?_bound_of_ne hindex)

theorem get?_enter (hnames : ∀ x ∈ l.names, isVariable x = true) {key value : Value} {x : String} {v : Value}
    (h : Dict.get? (l.scope key value) x = some v) (c : Context) :
    Dict.get? (l.enter key value c).bindings (aliasName x c.counter) = some v := by
  rw [get?_scope] at h
  unfold enter
  split_ifs at h with hitem hindex
  · cases h
    rw [hitem, get?_bound, if_pos (.inr rfl)]
  · cases h
    rw [get?_bound_of_ne fun y hy => ?_, hindex, get?_bound, if_pos (.inr rfl)]
    refine ⟨fun heq => ne_aliasName (hnames y (mem_names.2 (.inl hy))) x _ heq.symm, fun heq => hitem ?_⟩
    rw [(aliasName_inj.1 heq).1]
    exact hy

theorem leave_kept (h : Kept l.names c d) : Kept [] c (l.leave c d) := by
  refine ⟨by simpa using h.counter, fun k _ hold => ?_⟩
  rw [get?_leave]
  split_ifs with hk
  · rfl
  · exact h.bindings k hk hold

end Loop

/-! ## Texts that carry their emissions -/

/-- The text can stand beside any other such text, and its placeholders carry the emissions in order. -/
def Spells (lo hi : Nat) (b : Bindings) (s : String) (ems : List Emission) : Prop :=
  ∃ gs, s = .ofList (Glyph.text gs) ∧ Glyph.Tidy gs ∧ List.Forall₂ (Carries lo hi b) (Glyph.raws gs) ems

namespace Spells

variable {lo hi : Nat} {b : Bindings} {s t : String} {ems ems' : List Emission}

theorem mono (h : Spells lo hi b s ems) {lo' hi' : Nat} {b' : Bindings} (hlo : lo' ≤ lo) (hhi : hi ≤ hi')
    (hb : ∀ x n, n < hi → Dict.get? b' (aliasName x n) = Dict.get? b (aliasName x n)) : Spells lo' hi' b' s ems := by
  obtain ⟨gs, hs, htidy, hcarries⟩ := h
  exact ⟨gs, hs, htidy, hcarries.imp fun _ _ hc => hc.mono hlo hhi hb⟩

theorem ofText (h : isLoopText s = true) : Spells lo hi b s (Emission.ofText s) := by
  obtain ⟨htidy, hcarries⟩ := text_carries h
  exact ⟨Glyph.read s.toList, by rw [Glyph.text_read, String.ofList_toList], htidy, hcarries lo hi b⟩

theorem space : Spells lo hi b " " [] := ⟨Glyph.chars [' '], rfl, .space, .nil⟩

theorem append (h : Spells lo hi b s ems) (h' : Spells lo hi b t ems') : Spells lo hi b (s ++ t) (ems ++ ems') := by
  obtain ⟨gs, rfl, htidy, hcarries⟩ := h
  obtain ⟨gs', rfl, htidy', hcarries'⟩ := h'
  refine ⟨gs ++ gs', ?_, htidy.append htidy', ?_⟩
  · rw [Glyph.text_append, String.ofList_append]
  · rw [Glyph.raws_append]
    exact List.rel_append hcarries hcarries'

theorem intercalate (h : Spells lo hi b s ems) {texts : List String} {emss : List (List Emission)}
    (htexts : List.Forall₂ (Spells lo hi b) texts emss) : Spells lo hi b (s.intercalate texts) (ems.intercalate emss) := by
  induction htexts with
  | nil => exact ⟨[], rfl, .nil, .nil⟩
  | cons hfirst hrest ih =>
    cases hrest with
    | nil =>
      rw [String.intercalate_singleton, List.intercalate_singleton]
      exact hfirst
    | cons hsecond hrest =>
      rw [String.intercalate_cons_cons, List.intercalate_cons_cons]
      exact (hfirst.append h).append ih

theorem fragments {texts : List String} {emss : List (List Emission)} (h : List.Forall₂ (Spells lo hi b) texts emss) :
    Spells lo hi b (" ".intercalate texts) emss.flatten := by
  have hflatten (emss : List (List Emission)) : ([] : List Emission).intercalate emss = emss.flatten := by
    induction emss with
    | nil => rfl
    | cons ems emss ih =>
      cases emss with
      | nil => simp
      | cons ems' emss =>
        rw [List.intercalate_cons_cons, ih, List.append_nil]
        rfl
  exact hflatten emss ▸ space.intercalate h

theorem trim (h : Spells lo hi b s ems) : Spells lo hi b (Text.trimString s) ems := by
  obtain ⟨gs, rfl, htidy, hcarries⟩ := h
  refine ⟨Glyph.trimmed gs, ?_, htidy.trimmed, ?_⟩
  · rw [Text.trimString, String.toList_ofList, Glyph.text_trimmed]
  · rwa [Glyph.raws_trimmed]

theorem finished {n : Nat} (h : Spells (n + 1) hi b s ems) {l : Loop} (hnames : ∀ x ∈ l.names, isVariable x = true)
    {key value : Value} (hn : n < hi)
    (hscope : ∀ x v, Dict.get? (l.scope key value) x = some v → Dict.get? b (aliasName x n) = some v) :
    Spells n hi b (l.finished n s) (ems.map (·.within (l.scope key value))) := by
  obtain ⟨gs, rfl, htidy, hcarries⟩ := h
  unfold Loop.finished renamePlaceholders
  rw [Glyph.edit_eq, String.toList_ofList, Glyph.read_text htidy.sound]
  refine trim ⟨gs.map (Glyph.mapRaw (l.renamed n)), rfl, htidy.map fun raw _ => ?_, ?_⟩
  · exact encloses_renameContent l.names n
  · rw [Glyph.raws_map, List.forall₂_map_left_iff, List.forall₂_map_right_iff]
    exact hcarries.imp fun _ _ hc => hc.renamed hnames hn hscope

/-- Renaming leaves blank texts blank and others not. -/
theorem isEmpty_finished (h : Spells lo hi b s ems) (l : Loop) (n : Nat) :
    (l.finished n s).isEmpty = Text.isBlankString s := by
  obtain ⟨gs, rfl, htidy, -⟩ := h
  unfold Loop.finished renamePlaceholders
  rw [Glyph.edit_eq, String.toList_ofList, Glyph.read_text htidy.sound, Text.trimString, String.toList_ofList, Bool.eq_iff_iff,
    String.isEmpty_iff, String.ofList_eq_empty_iff, Text.trim_eq_nil, Glyph.text_blank_iff, Text.isBlankString,
    String.toList_ofList, List.all_eq_true, Glyph.text_blank_iff]
  simp [Glyph.blank_mapRaw]

end Spells

/-! ## Renderings -/

/-- A rendering from one context to the other adds texts that carry the emissions. -/
structure Emits (c d : Context) (ems : List Emission) : Prop where
  kept : Kept [] c d
  written : ∃ texts emss, d.fragments = c.fragments ++ texts ∧ emss.flatten = ems ∧
    List.Forall₂ (Spells c.counter d.counter d.bindings) texts emss

theorem Kept.spells {names : List String} {c d : Context} (h : Kept names c d) (hnames : ∀ x ∈ names, isVariable x = true)
    {lo : Nat} {texts : List String} {emss : List (List Emission)}
    (hspells : List.Forall₂ (Spells lo c.counter c.bindings) texts emss) :
    List.Forall₂ (Spells lo d.counter d.bindings) texts emss :=
  hspells.imp fun _ _ hs => hs.mono (le_refl lo) h.counter fun x _ hn => h.past hnames x hn

namespace Emits

variable {c d e : Context} {ems ems' : List Emission}

theorem refl (c : Context) : Emits c c [] := ⟨.refl [] c, [], [], by simp, rfl, .nil⟩

theorem trans (h : Emits c d ems) (h' : Emits d e ems') : Emits c e (ems ++ ems') := by
  obtain ⟨texts, emss, hd, rfl, hspells⟩ := h.written
  obtain ⟨texts', emss', he, rfl, hspells'⟩ := h'.written
  refine ⟨h.kept.trans h'.kept, texts ++ texts', emss ++ emss', ?_, List.flatten_append, ?_⟩
  · rw [he, hd, List.append_assoc]
  · refine List.rel_append (h'.kept.spells (by simp) hspells) (hspells'.imp fun _ _ hs => ?_)
    exact hs.mono h.kept.counter (le_refl _) fun _ _ _ => rfl

theorem append {s : String} (h : Spells c.counter c.counter c.bindings s ems) : Emits c (c.append s) ems :=
  ⟨⟨le_refl _, fun _ _ _ => rfl⟩, [s], [ems], rfl, by simp, .cons h .nil⟩

theorem text (h : Emits { c with fragments := [] } d ems) :
    Spells c.counter d.counter d.bindings (" ".intercalate d.fragments) ems := by
  obtain ⟨texts, emss, hd, rfl, hspells⟩ := h.written
  rw [hd, List.nil_append]
  exact .fragments hspells

end Emits

namespace Loop

variable {l : Loop} {body : Render Bool} {ems : Context → List Emission} {c d : Context}

/-- What the turns of a loop emit, one list for each turn that writes anything. -/
def emitted (l : Loop) (body : Render Bool) (ems : Context → List Emission) (entries : List (Value × Value)) (c : Context) :
    List (List Emission) :=
  ((l.turns body entries c).filter fun t => !Text.isBlankString t.text).map fun t =>
    (ems t.start).map (·.within (l.scope t.key t.value))

theorem iterate_emits (hnames : ∀ x ∈ l.names, isVariable x = true)
    (hbody : ∀ c d a, run body c = (.ok a, d) → Emits c d (ems c)) {entries : List (Value × Value)} {bodies : List String}
    (h : run (l.iterate body entries) c = (.ok bodies, d)) :
    Kept l.names c d ∧ d.fragments = c.fragments ∧
      List.Forall₂ (Spells c.counter d.counter d.bindings) bodies (l.emitted body ems entries c) := by
  induction entries generalizing c bodies with
  | nil =>
    obtain ⟨rfl, rfl⟩ := iterate_nil_ok.1 h
    exact ⟨.refl _ _, rfl, .nil⟩
  | cons entry entries ih =>
    obtain ⟨key, value⟩ := entry
    obtain ⟨a, inner, rest, hrun, hrest, hbodies⟩ := iterate_cons_ok.1 h
    obtain ⟨hkept, hfragments, hspells⟩ := ih hrest
    have hemits := hbody _ _ _ hrun
    have henter := l.enter_kept key value c
    have hinner : Kept l.names c { inner with fragments := c.fragments } :=
      henter.trans ⟨hemits.kept.counter, (hemits.kept.widen _).bindings⟩
    have hcounter : c.counter < inner.counter := by
      have := hemits.kept.counter
      simp only [enter_counter] at this
      omega
    -- The body may hide the names of the loop, but their aliases are older than anything it binds.
    have hscope : ∀ x v, Dict.get? (l.scope key value) x = some v →
        Dict.get? inner.bindings (aliasName x c.counter) = some v := by
      intro x v hx
      refine (hemits.kept.past (by simp) x ?_).trans (get?_enter hnames hx c)
      simp
    have htext : Spells (c.counter + 1) inner.counter inner.bindings (" ".intercalate inner.fragments)
        (ems { l.enter key value c with fragments := [] }) := by
      have htext := hemits.text
      rwa [enter_counter] at htext
    have hturn : List.Forall₂ (Spells c.counter d.counter d.bindings) [l.finished c.counter (" ".intercalate inner.fragments)]
        [(ems { l.enter key value c with fragments := [] }).map (·.within (l.scope key value))] :=
      hkept.spells hnames (.cons (htext.finished hnames hcounter hscope) .nil)
    have hrest' : List.Forall₂ (Spells c.counter d.counter d.bindings) rest
        (l.emitted body ems entries { inner with fragments := c.fragments }) :=
      hspells.imp fun _ _ hs => hs.mono (le_of_lt hcounter) (le_refl _) fun _ _ _ => rfl
    refine ⟨hinner.trans hkept, hfragments, ?_⟩
    -- A turn is dropped if nothing is left of it when trimmed, which is if it wrote only blanks.
    unfold emitted
    rw [hbodies, keep, turns_cons_ok hrun, htext.isEmpty_finished, List.filter_cons]
    cases Text.isBlankString (" ".intercalate inner.fragments)
    · exact List.rel_append hturn hrest'
    · exact hrest'

theorem join_spells {lo hi : Nat} {b : Bindings}
    (htexts : ∀ s ∈ [l.opening, l.separator, l.closing], isLoopText (s.getD "") = true) {bodies : List String}
    {turns : List (List Emission)} (h : List.Forall₂ (Spells lo hi b) bodies turns) (hne : bodies ≠ []) :
    Spells lo hi b (l.join bodies) (l.surround turns) := by
  simp only [List.forall_mem_cons] at htexts
  obtain ⟨hopening, hseparator, hclosing, -⟩ := htexts
  have hturns : turns.isEmpty = false := by
    cases h with
    | nil => exact absurd rfl hne
    | cons => rfl
  unfold join surround
  rw [hturns, if_neg (by simp)]
  exact ((Spells.ofText hopening).append ((Spells.ofText hseparator).intercalate h)).append (.ofText hclosing)

/-- A loop emits what its turns emit, with the texts around and between them. -/
theorem render_emits (hnames : ∀ x ∈ l.names, isVariable x = true)
    (htexts : ∀ s ∈ [l.opening, l.separator, l.closing], isLoopText (s.getD "") = true)
    (hbody : ∀ c d a, run body c = (.ok a, d) → Emits c d (ems c)) {a : Bool} (h : run (l.render body) c = (.ok a, d)) :
    ∃ entries, l.entriesAt c = some entries ∧ Emits c d (l.surround (l.emitted body ems entries c)) := by
  obtain ⟨entries, hentries, ⟨rfl, -, rfl⟩ | ⟨-, bodies, after, hiter, -, rfl⟩⟩ := render_ok h
  · exact ⟨[], hentries, .refl _⟩
  · obtain ⟨hkept, hfragments, hspells⟩ := iterate_emits hnames hbody hiter
    have hleft := leave_kept hkept
    -- Leaving the loop restores its names only, and no name of a loop is an alias.
    have halias (x : String) {n : Nat} (_ : n < after.counter) :
        Dict.get? (l.leave c after).bindings (aliasName x n) = Dict.get? after.bindings (aliasName x n) := by
      rw [get?_leave, if_neg fun hmem => ne_aliasName (hnames _ hmem) x n rfl]
    refine ⟨entries, hentries, ?_⟩
    cases hb : bodies.isEmpty with
    | true =>
      obtain rfl : bodies = [] := List.isEmpty_iff.1 hb
      rw [List.forall₂_nil_left_iff.1 hspells]
      exact ⟨hleft, [], [], by simp [hfragments], rfl, .nil⟩
    | false =>
      have hjoin := join_spells htexts hspells (by simpa using hb)
      refine ⟨⟨hleft.counter, hleft.bindings⟩, [l.join bodies], [l.surround (l.emitted body ems entries c)], ?_, by simp, ?_⟩
      · simp [Context.append, hfragments]
      · exact .cons (hjoin.mono (le_refl _) (by simp [Context.append]) fun x n hn => halias x hn) .nil

end Loop

namespace Node

theorem renderAll_emits {nodes : List Node} (h : ∀ n ∈ nodes, ∀ c d a, run n.render c = (.ok a, d) → Emits c d (n.emissions c))
    {c d : Context} (hrun : run (renderAll nodes) c = (.ok ⟨⟩, d)) : Emits c d (emissionsAll nodes c) := by
  induction nodes generalizing c with
  | nil =>
    obtain rfl := renderAll_nil_ok.1 hrun
    exact .refl _
  | cons n nodes ih =>
    rw [List.forall_mem_cons] at h
    obtain ⟨a, e, hn, hrest⟩ := renderAll_cons_ok.1 hrun
    rw [emissionsAll, hn]
    exact (h.1 c e a hn).trans (ih h.2 hrest)

theorem mem_isLoopTemplate {nodes : List Node} (h : allLoopTemplates nodes = true) : ∀ n ∈ nodes, n.isLoopTemplate = true := by
  induction nodes with
  | nil => simp
  | cons n nodes ih =>
    rw [allLoopTemplates, Bool.and_eq_true] at h
    exact List.forall_mem_cons.2 ⟨h.1, ih h.2⟩

/-- What a template of loops writes carries its emissions. -/
theorem render_emits (n : Node) (hn : n.isLoopTemplate = true) {c d : Context} {a : Bool} (h : run n.render c = (.ok a, d)) :
    Emits c d (n.emissions c) := by
  induction n using tree_induction generalizing c d a with
  | text s =>
    obtain ⟨-, rfl⟩ := render_text_ok.1 h
    exact .append (.ofText hn)
  | sequence nodes ih =>
    obtain ⟨-, hall⟩ := render_sequence_ok.1 h
    exact renderAll_emits (fun n hmem c d a => ih n hmem (mem_isLoopTemplate hn n hmem)) hall
  | loop l body ih =>
    rw [isLoopTemplate, Bool.and_eq_true, Bool.and_eq_true, List.all_eq_true, List.all_eq_true] at hn
    obtain ⟨⟨hnames, htexts⟩, hbody⟩ := hn
    obtain ⟨entries, hentries, hemits⟩ := Loop.render_emits hnames htexts (fun c d a => ih hbody) h
    rw [emissions, hentries]
    exact hemits
  | _ => cases hn

end Node

end SqlTemplate
