import SqlTemplate.Proofs.Mapping.Markers
import SqlTemplate.Proofs.Rendering.Errors
import SqlTemplate.Proofs.Rendering.Renaming

/-! # Well-formed placeholders

What is checked in a placeholder while its mapping is made. All of it but the result map of a cursor depends on the placeholder and
the aliases alone, and so could be checked in the text of a template.
-/

namespace SqlTemplate

open SqlTemplate.Computation Text

namespace Placeholder

/-- The name of the SQL type. An option counts before the shorthand. -/
def sqlTypeName? (p : Placeholder) : Option String := (p.option? "jdbcType").or p.sqlType

def knowsSqlType (p : Placeholder) : Bool := p.sqlTypeName?.all fun name => (SqlType.read name).toOption.isSome

def knowsType (aliases : Aliases) (p : Placeholder) : Bool := (p.option? "javaType").all fun name => (aliases.resolve? name).isSome

def knowsMode (p : Placeholder) : Bool := (p.option? "mode").all fun name => (ParameterMode.read name).toOption.isSome

def knowsScale (p : Placeholder) : Bool := (p.option? "numericScale").all fun text => (Number.readNat? text.toList).any Number.fits32

/-- The names in the placeholder are known and its scale is a number. -/
def isKnown (aliases : Aliases) (p : Placeholder) : Bool :=
  p.knowsSqlType && p.knowsType aliases && p.knowsMode && p.knowsScale

def isCursor (p : Placeholder) : Bool := p.sqlTypeName?.any fun name => (SqlType.read name).toOption = some .cursor

def hasResultMap (p : Placeholder) : Bool := (p.option? "resultMap").isSome

/-- The placeholder is well formed wherever it stands, whatever is bound there. -/
def isWellFormed (aliases : Aliases) (content : String) : Bool :=
  match parse content with
  | .ok p => p.isKnown aliases && (!p.isCursor || p.hasResultMap)
  | .error _ => false

end Placeholder

/-! ## Checks in a row -/

section

variable {α β : Type} {P Q : Prop} {r : Registry}

/-- The check fails exactly if the condition does not hold, and then with a compile error. -/
def Guards (P : Prop) : Except Error α → Prop
  | .ok _ => P
  | .error e => ¬ P ∧ e.isCompile = true

/-- As a check, but where the condition holds there may still be an error that depends on the parameter. -/
def Judges (P : Prop) : Except Error α → Prop
  | .ok _ => P
  | .error e => (¬ P ∧ e.isCompile = true) ∨ (P ∧ e.isRunTime = true)

theorem Guards.bind {x : Extraction α} {f : α → Extraction β} (hx : Guards P (run x r).1)
    (hf : ∀ a r', run x r = (.ok a, r') → Judges Q (run (f a) r').1) : Judges (P ∧ Q) (run (x >>= f) r).1 := by
  rw [run_bind]
  rcases hrun : run x r with ⟨e | a, r'⟩ <;> rw [hrun] at hx
  · exact .inl ⟨fun h => hx.1 h.1, hx.2⟩
  · have hrest := hf a r' hrun
    dsimp only
    rcases hresult : (run (f a) r').1 with e | b <;> rw [hresult] at hrest
    · exact hrest.imp (fun h => ⟨fun hpq => h.1 hpq.2, h.2⟩) fun h => ⟨⟨hx, h.1⟩, h.2⟩
    · exact ⟨hx, hrest⟩

theorem Guards.bind_ofExcept {x : Except Error α} {f : α → Extraction β} (hx : Guards P x)
    (hf : ∀ a, x = .ok a → Judges Q (run (f a) r).1) : Judges (P ∧ Q) (run (MonadExcept.ofExcept x >>= f) r).1 := by
  refine Guards.bind (by rwa [run_ofExcept]) fun a r' h => ?_
  obtain ⟨ha, rfl⟩ := ofExcept_ok.1 h
  exact hf a ha

theorem Judges.bind_pure {x : Extraction α} {f : α → β} (hx : Judges P (run x r).1) :
    Judges P (run (x >>= fun a => pure (f a)) r).1 := by
  rw [run_bind]
  rcases hrun : run x r with ⟨e | a, r'⟩ <;> rw [hrun] at hx <;> exact hx

namespace Judges

variable {x : Except Error α} (hx : Judges P x)

include hx

theorem run_time_or_compile (e : Error) (he : x = .error e) : e.isRunTime = true ∨ e.isCompile = true := by
  rw [he] at hx
  exact hx.elim (fun h => .inr h.2) fun h => .inl h.2

/-- Where the condition holds, all errors depend on the parameter. -/
theorem run_time (hP : P) (e : Error) (he : x = .error e) : e.isRunTime = true := by
  rw [he] at hx
  exact (hx.resolve_left fun h => h.1 hP).2

theorem compile_error_iff : (∃ e, x = .error e ∧ e.isCompile = true) ↔ ¬ P := by
  constructor
  · rintro ⟨e, he, hcompile⟩ hP
    rw [Error.not_isCompile_of_isRunTime (hx.run_time hP e he)] at hcompile
    cases hcompile
  · intro hP
    cases x with
    | ok a => exact absurd hx hP
    | error e => exact ⟨e, rfl, (hx.resolve_right fun h => hP h.1).2⟩

end Judges

end

namespace Scope

variable {s : Scope} {r r' : Registry} {content : String} {p : Placeholder}

/-- The type is that of a binding, or the parameter is bound as a whole. -/
def Typed (s : Scope) (r : Registry) (p : Placeholder) : Prop :=
  Dict.contains s.bindings (Path.parse p.property).root = true ∨
    (s.declared ≠ .list ∧ ((r.touch s.declared).find? s.declared none).isSome = true)

/-- The placeholder passes every check. A cursor that is not typed otherwise must come with a result map. -/
def WellFormed (s : Scope) (r : Registry) (content : String) : Prop :=
  ∃ p, Placeholder.parse content = .ok p ∧ p.isKnown s.aliases = true ∧
    (p.isCursor = true → p.hasResultMap = true ∨ s.Typed r p)

/-! ## One rule for each check -/

theorem sqlTypeOf_guards (content : String) (p : Placeholder) : Guards (p.knowsSqlType = true) (sqlTypeOf content p) := by
  unfold sqlTypeOf Placeholder.knowsSqlType Placeholder.sqlTypeName?
  cases (p.option? "jdbcType").or p.sqlType with
  | none => rfl
  | some name => cases hread : SqlType.read name <;> simp [hread, invalid, Guards, Error.isCompile, Except.toOption]

theorem isCursor_iff {sqlType : Option SqlType} (h : sqlTypeOf content p = .ok sqlType) :
    p.isCursor = true ↔ sqlType = some .cursor := by
  unfold sqlTypeOf at h
  unfold Placeholder.isCursor Placeholder.sqlTypeName?
  cases hname : (p.option? "jdbcType").or p.sqlType with
  | none =>
    rw [hname] at h
    cases h
    simp
  | some name =>
    rw [hname] at h
    cases hread : SqlType.read name <;> simp [hread, invalid] at h
    simp [hread, Except.toOption, h]

theorem declaredType_guards (content : String) (p : Placeholder) (found : ValueType) :
    Guards (p.knowsType s.aliases = true) (s.declaredType content p found) := by
  unfold declaredType Placeholder.knowsType
  cases p.option? "javaType" with
  | none => rfl
  | some name => cases hresolve : s.aliases.resolve? name <;> simp [hresolve, invalid, Guards, Error.isCompile]

theorem modeOf_guards (content : String) (p : Placeholder) : Guards (p.knowsMode = true) (modeOf content p) := by
  unfold modeOf Placeholder.knowsMode
  cases p.option? "mode" with
  | none => rfl
  | some name => cases hread : ParameterMode.read name <;> simp [hread, invalid, Guards, Error.isCompile, Except.toOption]

theorem scaleOf_guards (content : String) (p : Placeholder) : Guards (p.knowsScale = true) (scaleOf content p) := by
  unfold scaleOf Placeholder.knowsScale
  cases p.option? "numericScale" with
  | none => rfl
  | some text =>
    cases hread : Number.readNat? text.toList with
    | none => simp [hread, invalid, Guards, Error.isCompile]
    | some n => cases hfits : Number.fits32 n <;> simp [hread, hfits, invalid, Guards, Error.isCompile]

theorem propertyType_guards (content : String) (p : Placeholder) (sqlType : Option SqlType) :
    Guards (sqlType = some .cursor → p.hasResultMap = true) (s.propertyType content p sqlType) := by
  unfold propertyType Placeholder.hasResultMap
  cases hmap : p.option? "resultMap" <;> split_ifs <;> simp_all [invalid, Guards, Error.isCompile]

theorem run_has (t : ValueType) (r : Registry) :
    run (liftM (Lookup.has t) : Extraction Bool) r = (.ok ((r.touch t).find? t none).isSome, r.touch t) := rfl

theorem typeOf_typed (content : String) (sqlType : Option SqlType) (h : s.Typed r p) :
    ∃ t, (run (s.typeOf content p sqlType) r).1 = .ok t := by
  unfold typeOf
  dsimp only
  rcases h with hbound | ⟨hlist, hwhole⟩
  · obtain ⟨bound, hbound⟩ := Option.isSome_iff_exists.1 hbound
    rw [hbound]
    exact ⟨_, rfl⟩
  · split
    · exact ⟨_, rfl⟩
    · rw [if_neg hlist, run_bind, run_has]
      dsimp only
      rw [if_pos hwhole]
      exact ⟨_, rfl⟩

theorem typeOf_untyped (content : String) (sqlType : Option SqlType) (h : ¬ s.Typed r p) :
    (run (s.typeOf content p sqlType) r).1 = s.propertyType content p sqlType := by
  rw [Typed, not_or, Dict.contains, Option.not_isSome_iff_eq_none] at h
  obtain ⟨hunbound, hpart⟩ := h
  unfold typeOf
  dsimp only
  rw [hunbound]
  dsimp only
  split_ifs with hlist
  · rw [run_bind, run_pure]
    dsimp only
    rw [if_neg Bool.false_ne_true, run_ofExcept]
  · rw [run_bind, run_has]
    dsimp only
    rw [if_neg fun hwhole => hpart ⟨hlist, hwhole⟩, run_ofExcept]

theorem typeOf_guards (content : String) (p : Placeholder) (sqlType : Option SqlType) (r : Registry) :
    Guards (sqlType = some .cursor → p.hasResultMap = true ∨ s.Typed r p) (run (s.typeOf content p sqlType) r).1 := by
  by_cases htyped : s.Typed r p
  · obtain ⟨t, ht⟩ := typeOf_typed content sqlType htyped
    rw [ht]
    exact fun _ => .inr htyped
  · have hproperty := s.propertyType_guards content p sqlType
    rw [typeOf_untyped content sqlType htyped]
    simpa only [htyped, or_false] using hproperty

theorem converterOf_judges (p : Placeholder) (t : ValueType) (sqlType : Option SqlType) (r : Registry) :
    Judges True (run (converterOf p t sqlType) r).1 := by
  have hmissing (property : String) (candidates : List String) :
      Judges True (run (throw (.noHandler property candidates) : Extraction (Option String)) r).1 :=
    .inr ⟨trivial, rfl⟩
  unfold converterOf
  rw [run_bind, run_get]
  dsimp only
  split
  · split
    · trivial
    · exact hmissing _ _
  · split_ifs
    · trivial
    · trivial
    · exact hmissing _ _

/-- A mapping is made of every well-formed placeholder that has a converter. -/
theorem mapping_judges (content : String) (r : Registry) : Judges (s.WellFormed r content) (run (s.mapping content) r).1 := by
  unfold mapping
  rw [run_bind, run_ofExcept]
  cases hparse : Placeholder.parse content with
  | error err =>
    refine .inl ⟨?_, rfl⟩
    rintro ⟨p, hp, -⟩
    rw [hparse] at hp
    cases hp
  | ok p =>
    have hwell : s.WellFormed r content ↔ p.knowsSqlType = true ∧ (p.isCursor = true → p.hasResultMap = true ∨ s.Typed r p) ∧
        p.knowsType s.aliases = true ∧ p.knowsMode = true ∧ p.knowsScale = true ∧ True := by
      simp only [WellFormed, hparse, Except.ok.injEq, exists_eq_left', Placeholder.isKnown, Bool.and_eq_true]
      constructor
      · exact fun ⟨⟨⟨⟨hsqlType, htype⟩, hmode⟩, hscale⟩, hcursor⟩ => ⟨hsqlType, hcursor, htype, hmode, hscale, trivial⟩
      · exact fun ⟨hsqlType, hcursor, htype, hmode, hscale, _⟩ => ⟨⟨⟨⟨hsqlType, htype⟩, hmode⟩, hscale⟩, hcursor⟩
    rw [hwell, mapError_of_ok]
    dsimp only
    refine (sqlTypeOf_guards content p).bind_ofExcept fun sqlType hs => ?_
    rw [isCursor_iff hs]
    refine (typeOf_guards content p sqlType r).bind fun found r' _ => ?_
    refine (declaredType_guards content p found).bind_ofExcept fun t _ => ?_
    refine (modeOf_guards content p).bind_ofExcept fun mode _ => ?_
    refine (scaleOf_guards content p).bind_ofExcept fun scale _ => ?_
    exact (converterOf_judges p t sqlType r').bind_pure

theorem wellFormed_of_accepts (h : s.Accepts r content) : s.WellFormed r content := by
  obtain ⟨m, hm⟩ := h
  have hjudges := s.mapping_judges content r
  rwa [hm] at hjudges

/-- The first element without the property is the same wherever a list is split. -/
theorem first_unique {α : Type} {P : α → Prop} {before before' after after' : List α} {a a' : α}
    (h : before ++ a :: after = before' ++ a' :: after') (hbefore : ∀ x ∈ before, P x) (ha : ¬ P a) (hbefore' : ∀ x ∈ before', P x)
    (ha' : ¬ P a') : a = a' := by
  induction before generalizing before' with
  | nil =>
    cases before' with
    | nil => exact (List.cons.inj h).1
    | cons x before' => exact absurd ((List.cons.inj h).1 ▸ hbefore' x List.mem_cons_self) ha
  | cons x before ih =>
    rw [List.forall_mem_cons] at hbefore
    cases before' with
    | nil => exact absurd ((List.cons.inj h).1 ▸ hbefore.1) ha'
    | cons x' before' => exact ih (List.cons.inj h).2 hbefore.2 fun y hy => hbefore' y (List.mem_cons_of_mem _ hy)

/-- The first placeholder that is not well formed, if those before it have mappings. -/
def Meets (s : Scope) (r : Registry) (contents : List String) : Prop :=
  ∃ before content after, contents = before ++ content :: after ∧ (∀ c ∈ before, s.Accepts r c) ∧ ¬ s.WellFormed r content

/-- An extraction fails with a compile error exactly if it comes to a malformed placeholder, and otherwise only for want of a
converter. -/
theorem extract_guards (style : MarkerStyle) (text : String) (r : Registry) :
    Judges (¬ s.Meets r (placeholder.tokens text)) (run (s.extract style text) r).1 := by
  have hmarkers := s.extract_markers style text r
  rw [contents_split] at hmarkers
  cases hresult : (run (s.extract style text) r).1 with
  | ok marked =>
    rw [hresult] at hmarkers
    rintro ⟨before, content, after, htokens, -, hmalformed⟩
    obtain ⟨m, hm, -⟩ := exists_of_forall₂ hmarkers.2.2 content (by simp [htokens])
    exact hmalformed (s.wellFormed_of_accepts ⟨m, hm⟩)
  | error e =>
    rw [hresult] at hmarkers
    obtain ⟨before, content, after, htokens, hbefore, herror⟩ := hmarkers
    have hjudges := s.mapping_judges content r
    rw [herror] at hjudges
    refine hjudges.imp (fun h => ⟨not_not.2 ⟨before, content, after, htokens, hbefore, h.1⟩, h.2⟩) fun h => ⟨?_, h.2⟩
    rintro ⟨before', content', after', htokens', hbefore', hmalformed⟩
    have hrejected : ¬ s.Accepts r content := by
      rintro ⟨m, hm⟩
      rw [herror] at hm
      cases hm
    -- Both are the first that is not accepted, and so the same.
    have hsame := first_unique (htokens.symm.trans htokens') hbefore hrejected hbefore'
      fun haccepts => hmalformed (s.wellFormed_of_accepts haccepts)
    exact hmalformed (hsame ▸ h.1)

theorem wellFormed_of_isWellFormed (h : Placeholder.isWellFormed s.aliases content = true) (r : Registry) :
    s.WellFormed r content := by
  unfold Placeholder.isWellFormed at h
  split at h
  · rename_i p hp
    rw [Bool.and_eq_true, Bool.or_eq_true, Bool.not_eq_true'] at h
    exact ⟨p, hp, h.1, fun hcursor => .inl (h.2.resolve_left (by simp [hcursor]))⟩
  · cases h

end Scope

/-! ## Other names at the front -/

namespace Placeholder

variable {aliases : Aliases} {content : String}

theorem isWellFormed_other (h : isWellFormed aliases content = true) {other : String} (hne : other.toList ≠ [])
    (hother : ∀ c ∈ other.toList, isNameChar c = true) : isWellFormed aliases (other ++ .ofList (afterName content)) = true := by
  unfold isWellFormed at h
  split at h
  · rename_i p hp
    obtain ⟨q, hq, htype, hoptions⟩ := parse_other hne hother hp
    have hoption (key : String) : q.option? key = p.option? key := by
      rw [option?, option?, hoptions]
    rw [isWellFormed, hq]
    simpa only [isKnown, knowsSqlType, knowsType, knowsMode, knowsScale, isCursor, hasResultMap, sqlTypeName?, hoption, htype] using h
  · cases h

theorem isWellFormed_rename {names : List String} (hnames : ∀ x ∈ names, IsLoopName x) (n : Nat)
    (h : isWellFormed aliases content = true) : isWellFormed aliases (renameContent names n content) = true := by
  rw [renameContent_run hnames]
  split_ifs with hmem
  · exact isWellFormed_other h (aliasName_ne_nil _ n) (aliasName_names (hnames _ hmem.1).2 n)
  · exact h

/-! ## Contents that are shrunk -/

/-- The content in a statement whose blanks are shrunk. -/
def squeezed (content : String) : String := .ofList (squeeze content.toList)

theorem afterName_squeezed (content : String) : afterName (squeezed content) = squeeze (afterName content) := by
  -- Nothing that could go on with the name comes to stand behind it, since a run of blanks leaves a space.
  have hhead : ∀ c ∈ (squeeze (afterName content)).head?, isNameChar c = false := by
    intro c hc
    cases hname : isNameChar c with
    | false => rfl
    | true =>
      have hfirst := head?_squeeze_of (Option.mem_def.1 hc) (isBlank_of_isNameChar hname)
      rw [afterName_head content c hfirst] at hname
      cases hname
  have htrim : trimStart (squeezed content).toList = leadingName content ++ squeeze (afterName content) := by
    rw [squeezed, String.toList_ofList, trimStart_squeeze, ← leadingName_append,
      squeeze_append_word fun c hc => isBlank_of_isNameChar (leadingName_chars content c hc)]
  exact (congrArg (List.dropWhile isNameChar) htrim).trans (run_split (leadingName_chars content) hhead).2

theorem isWellFormed_squeezed_rename {names : List String} (hnames : ∀ x ∈ names, IsLoopName x) (n : Nat)
    (h : isWellFormed aliases (squeezed content) = true) : isWellFormed aliases (squeezed (renameContent names n content)) = true := by
  rw [renameContent_run hnames]
  split_ifs with hmem
  · have halias := aliasName_names (hnames _ hmem.1).2 n
    have hother := isWellFormed_other h (aliasName_ne_nil _ n) halias
    rw [squeezed, String.toList_append, String.toList_ofList,
      squeeze_append_word fun c hc => isBlank_of_isNameChar (halias c hc), ← afterName_squeezed, String.ofList_append,
      String.ofList_toList]
    exact hother
  · exact h

end Placeholder

end SqlTemplate
