import SqlTemplate.Mapping.Convert
import SqlTemplate.Proofs.Conversion.Named
import SqlTemplate.Proofs.Mapping.Markers

/-! # The values as they are bound

Each value is converted for its mapping alone. A mapping keeps of its converter only the name, by which the converter is found again
when the value is bound. The name of the converter for any value is passed over then, whether the placeholder gave it or not.
-/

namespace SqlTemplate

open SqlTemplate.Computation

/-! ## Converters under their names -/

theorem forall₂_getElem? {α β : Type} {R : α → β → Prop} {as : List α} {bs : List β} (h : List.Forall₂ R as bs) {i : Nat} {a : α}
    (ha : as[i]? = some a) : ∃ b, bs[i]? = some b ∧ R a b := by
  induction h generalizing i with
  | nil => cases ha
  | cons hab _ ih =>
    cases i with
    | zero =>
      cases ha
      exact ⟨_, rfl, hab⟩
    | succ i => exact ih ha

theorem Converter.name_eq_object {c : Converter} (h : c.name = Converter.object.name) : c = .object := by
  cases c with
  | object => rfl
  | integer size => cases size <;> simp [name, IntegerSize.name] at h
  | float size => cases size <;> simp [name, FloatSize.name] at h
  | text kind => cases kind <;> simp [name, TextKind.name] at h
  | bytes kind => cases kind <;> simp [name, BytesKind.name] at h
  | temporal kind => cases kind <;> simp [name, TemporalKind.name] at h
  | enumeration style e => cases style <;> simp [name, EnumStyle.converterName] at h
  | _ => simp [name] at h

namespace Registry

variable {style : EnumStyle} {r r' : Registry} {t : ValueType}

theorem named?_builtin_name {name : String} {c : Converter} (h : (builtin style).named? name = some c) : c.name = name := by
  rw [builtin_eq, named?_after] at h
  have hfirst : firstNamed builtinCalls name = some c := h
  simpa using List.find?_some hfirst

theorem resolve?_builtin_name {name : String} {c : Converter} (h : (builtin style).resolve? name t = some c) : c.name = name := by
  unfold resolve? at h
  cases hnamed : (builtin style).named? name with
  | some d =>
    obtain rfl : d = c := by simpa [hnamed] using h
    exact named?_builtin_name hnamed
  | none =>
    rw [hnamed] at h
    cases t with
    | enumeration e =>
      dsimp only at h
      split_ifs at h with hname hordinal <;> cases h
      · exact hname.symm
      · exact hordinal.symm
    | builtin b => cases h
    | record name properties => cases h

/-- The converter that a look-up of the type finds. -/
def chosen? (r : Registry) (t : ValueType) (s : Option SqlType) : Option Converter := (r.choices t).bind fun found => choose? found s

theorem converter?_eq (r : Registry) (t : ValueType) (s : Option SqlType) :
    Lookup.converter? t s r = (r.chosen? t s, r.touch t) := by
  rw [chosen?, ← find?_touch]
  rfl

theorem Agrees.chosen? (h : r.Agrees r') (t : ValueType) (s : Option SqlType) : r.chosen? t s = r'.chosen? t s := by
  rw [Registry.chosen?, Registry.chosen?, h.choices]

end Registry

/-! ## One mapping -/

namespace ParameterMapping

variable {m : ParameterMapping} {r r' : Registry}

/-- The converter for a value where the mapping names none. -/
def unnamed? (m : ParameterMapping) (r : Registry) (v : Value) : Option Converter :=
  (if m.type = .object then none else r.chosen? m.type m.sqlType).or
    (((r.chosen? v.type m.sqlType).filter fun c => c.name != Converter.object.name).or (m.sqlType.bind r.forSqlType?))

/-- The converter for a value. -/
def chosen? (m : ParameterMapping) (r : Registry) (v : Value) : Option Converter := (m.named? r).or (m.unnamed? r v)

theorem declared?_spec (m : ParameterMapping) (r : Registry) :
    (m.declared? r).1 = (if m.type = .object then none else r.chosen? m.type m.sqlType) ∧ r.Agrees (m.declared? r).2 := by
  rw [declared?]
  split
  · exact ⟨rfl, .refl r⟩
  · rw [r.converter?_eq]
    exact ⟨rfl, .touch r m.type⟩

theorem inherent?_spec (m : ParameterMapping) (r : Registry) (v : Value) :
    (m.inherent? v r).1 = ((r.chosen? v.type m.sqlType).filter fun c => c.name != Converter.object.name) ∧
      r.Agrees (m.inherent? v r).2 := by
  rw [inherent?, state_bind, r.converter?_eq]
  exact ⟨rfl, .touch r v.type⟩

/-- What is found is found among agreeing registries alone, and a registry that was searched agrees with what it was. -/
theorem converter?_spec (m : ParameterMapping) (r : Registry) (v : Value) :
    (m.converter? v r).1 = m.chosen? r v ∧ r.Agrees (m.converter? v r).2 := by
  obtain ⟨hdeclared, hagrees⟩ := m.declared?_spec r
  obtain ⟨hinherent, hagrees'⟩ := m.inherent?_spec (m.declared? r).2 v
  rw [← hagrees.chosen?] at hinherent
  have hget : (get : Lookup Registry) r = (r, r) := rfl
  rw [chosen?, unnamed?, ← hdeclared, ← hinherent]
  simp only [converter?, state_bind, hget]
  cases m.named? r with
  | some c => exact ⟨rfl, .refl r⟩
  | none =>
    rw [Option.none_or]
    dsimp only
    rw [state_bind]
    cases (m.declared? r).1 with
    | some c => exact ⟨rfl, hagrees⟩
    | none =>
      rw [Option.none_or]
      dsimp only
      rw [state_bind]
      cases (m.inherent? v (m.declared? r).2).1 <;> exact ⟨rfl, hagrees.trans hagrees'⟩

theorem chosen?_congr (h : r.Agrees r') (v : Value) : m.chosen? r v = m.chosen? r' v := by
  have hsqlType : r.forSqlType? = r'.forSqlType? := by
    funext s
    rw [Registry.forSqlType?, h.bySqlType, Registry.forSqlType?]
  simp only [chosen?, named?, unnamed?, h.resolve?, h.chosen?, hsqlType]

end ParameterMapping

/-! ## All values -/

namespace BoundSql

variable {b : BoundSql} {parameter : Value} {m : ParameterMapping} {r r' : Registry}

/-- What a converter makes of a value, which stays as it is where there is none. -/
def applied (c : Option Converter) (v : Value) : Except Error Value :=
  match c with
  | some c => (c.toParameter v).mapError Error.evaluation
  | none => .ok v

/-- The value that is bound for a mapping alone. -/
def boundAs (b : BoundSql) (parameter : Value) (r : Registry) (m : ParameterMapping) : Except Error Value := do
  let v ← (b.resolve parameter m).mapError Error.unresolved
  applied (m.chosen? r v) v

theorem boundAs_congr (h : r.Agrees r') : b.boundAs parameter r = b.boundAs parameter r' := by
  funext m
  simp only [boundAs, ParameterMapping.chosen?_congr h]

theorem convert_spec (m : ParameterMapping) (v : Value) (r : Registry) :
    (run (convert m v) r).1 = applied (m.chosen? r v) v ∧ r.Agrees (run (convert m v) r).2 := by
  unfold convert
  split
  · -- No converter is looked for, and each of them leaves null as it is.
    rename_i hnull
    have happlied : applied (m.chosen? r v) v = .ok .null := by
      cases v <;> cases hnull
      unfold applied
      split <;> rfl
    exact ⟨happlied.symm, .refl r⟩
  · obtain ⟨hchosen, hagrees⟩ := m.converter?_spec r v
    have hlift : run (liftM (m.converter? v) : Extraction (Option Converter)) r =
        (.ok (m.converter? v r).1, (m.converter? v r).2) := rfl
    rw [run_bind, hlift, hchosen]
    dsimp only
    cases m.chosen? r v with
    | some c =>
      rw [run_ofExcept]
      exact ⟨rfl, hagrees⟩
    | none => exact ⟨rfl, hagrees⟩

/-- Each value is converted for its mapping alone, and the first error is that of them all. -/
theorem convertEach_eq_mapM (b : BoundSql) (parameter : Value) (ms : List ParameterMapping) (r : Registry) :
    (run (b.convertEach parameter ms) r).1 = ms.mapM (b.boundAs parameter r) := by
  induction ms generalizing r with
  | nil => rfl
  | cons m ms ih =>
    rw [convertEach, run_bind, run_ofExcept, List.mapM_cons, boundAs]
    cases (b.resolve parameter m).mapError Error.unresolved with
    | error e => rfl
    | ok v =>
      obtain ⟨hconvert, hagrees⟩ := convert_spec m v r
      dsimp only
      rw [run_bind, except_ok_bind, ← hconvert]
      rcases hrun : run (convert m v) r with ⟨e | x, t⟩
      · rfl
      · rw [hrun] at hagrees
        have hrest := ih t
        rw [← boundAs_congr hagrees] at hrest
        dsimp only
        rw [run_bind, except_ok_bind, ← hrest]
        rcases run (b.convertEach parameter ms) t with ⟨e | rest, u⟩ <;> rfl

end BoundSql

/-! ## A converter that is named -/

namespace Scope

variable {s : Scope} {p : Placeholder} {name : String} {r r' : Registry}

theorem converterOf_named {t : ValueType} {sqlType : Option SqlType} {converter : Option String}
    (hname : p.option? "typeHandler" = some name) (h : run (converterOf p t sqlType) r = (.ok converter, r')) :
    ∃ c, r.resolve? name t = some c ∧ converter = some c.name := by
  obtain ⟨r₀, t₀, hr, h⟩ := bind_ok.1 h
  obtain ⟨rfl, rfl⟩ := ok_inj.1 hr
  rw [hname] at h
  dsimp only at h
  cases hc : r.resolve? name t with
  | some c =>
    rw [hc] at h
    obtain ⟨rfl, -⟩ := ok_inj.1 h
    exact ⟨c, rfl, rfl⟩
  | none =>
    rw [hc] at h
    cases h

theorem mapping_named {content : String} {m : ParameterMapping} (h : run (s.mapping content) r = (.ok m, r'))
    (hparse : Placeholder.parse content = .ok p) (hname : p.option? "typeHandler" = some name) :
    ∃ c, r.resolve? name m.type = some c ∧ m.converter = some c.name := by
  unfold mapping at h
  obtain ⟨q, _, hq, h₁⟩ := bind_ok.1 h
  obtain ⟨hq, rfl⟩ := ofExcept_ok.1 hq
  obtain rfl : p = q := by simpa [hparse] using hq
  obtain ⟨sqlType, r₂, hsqlType, h₂⟩ := bind_ok.1 h₁
  obtain ⟨-, rfl⟩ := ofExcept_ok.1 hsqlType
  obtain ⟨found, r₃, hfound, h₃⟩ := bind_ok.1 h₂
  obtain ⟨t, _, ht, h₄⟩ := bind_ok.1 h₃
  obtain ⟨-, rfl⟩ := ofExcept_ok.1 ht
  obtain ⟨mode, _, hmode, h₅⟩ := bind_ok.1 h₄
  obtain ⟨-, rfl⟩ := ofExcept_ok.1 hmode
  obtain ⟨scale, _, hscale, h₆⟩ := bind_ok.1 h₅
  obtain ⟨-, rfl⟩ := ofExcept_ok.1 hscale
  obtain ⟨converter, hconverter, rfl⟩ := bind_pure_ok.1 h₆
  -- Only the look-up of the type may have changed the registry.
  have hagrees := (typeOf_steady (s := s) content p sqlType (.refl r₂)).2
  rw [hfound] at hagrees
  rw [hagrees.resolve?]
  exact converterOf_named hname hconverter

end Scope

namespace BoundSql

variable {b : BoundSql} {parameter v : Value} {m : ParameterMapping} {c : Converter} {r : Registry}

/-- A converter other than the one for any value is applied. That one is passed over, and leaves the value as it is only where the
converter that is chosen without a name does so. -/
theorem boundAs_named (hv : b.resolve parameter m = .ok v) (hc : r.resolve? c.name m.type = some c) (hm : m.converter = some c.name) :
    b.boundAs parameter r m = (c.toParameter v).mapError Error.evaluation ↔
      c ≠ .object ∨ ∀ d, m.unnamed? r v = some d → d.toParameter v = .ok v := by
  have hbound : b.boundAs parameter r m = applied (m.chosen? r v) v := by rw [boundAs, hv, mapError_of_ok, except_ok_bind]
  rw [hbound, ParameterMapping.chosen?, ParameterMapping.named?, hm]
  by_cases hobject : c = .object
  · -- The name is passed over as if none had been given.
    subst hobject
    have hself : Converter.object.toParameter v = .ok v := by cases v <;> rfl
    rw [hself, mapError_of_ok]
    simp only [if_true, Option.none_or, ne_eq, not_true_eq_false, false_or]
    cases m.unnamed? r v with
    | none => simp [applied]
    | some d => simp [applied, mapError_ok]
  · have hne : c.name ≠ Converter.object.name := fun h => hobject (Converter.name_eq_object h)
    dsimp only
    rw [if_neg hne, hc, Option.some_or]
    exact iff_of_true rfl (.inl hobject)

/-- Each value is bound for its mapping alone, and that of a placeholder which names a converter by that converter. The converter for
any value is applied only where the one that would be chosen without a name leaves the value as it is. -/
theorem convertAll_named {style : EnumStyle} {s : Scope} {marker : MarkerStyle} {sql content name : String} {marked : MarkedSql}
    {p : Placeholder} {i : Nat} (hr : (Registry.builtin style).Agrees r) (hextract : (run (s.extract marker sql) r).1 = .ok marked)
    (hcontent : (placeholder.tokens sql)[i]? = some content) (hparse : Placeholder.parse content = .ok p)
    (hname : p.option? "typeHandler" = some name) :
    ∃ m c, marked.mappings[i]? = some m ∧ m.property = p.property ∧ (Registry.builtin style).resolve? name m.type = some c ∧
      ∀ (additional : Bindings) (parameter : Value) (r' : Registry), (Registry.builtin style).Agrees r' →
        let b : BoundSql := ⟨marked, additional⟩
        (run (b.convertAll parameter) r').1 = marked.mappings.mapM (b.boundAs parameter r') ∧
          (b.resolve parameter m = .ok .null → b.boundAs parameter r' m = .ok .null) ∧
          ∀ v, b.resolve parameter m = .ok v →
            (b.boundAs parameter r' m = (c.toParameter v).mapError Error.evaluation ↔
              c ≠ .object ∨ ∀ d, m.unnamed? r' v = some d → d.toParameter v = .ok v) := by
  have hmarked : run (s.extract marker sql) r = (.ok marked, (run (s.extract marker sql) r).2) := Prod.ext hextract rfl
  obtain ⟨ms, hms, rfl⟩ := bind_pure_ok.1 hmarked
  have hrun := s.mappings_run (placeholder.tokens sql) r
  rw [hms] at hrun
  obtain ⟨m, hm, hmapping⟩ := forall₂_getElem? hrun hcontent
  obtain ⟨q, hq, hproperty, -⟩ := Scope.mapping_ok (Prod.ext hmapping rfl)
  obtain rfl : p = q := by simpa [hparse] using hq
  obtain ⟨c, hc, hconverter⟩ := Scope.mapping_named (Prod.ext hmapping rfl) hparse hname
  rw [← hr.resolve?] at hc
  have hself := Registry.resolve?_builtin_name hc
  refine ⟨m, c, hm, hproperty, hc, fun additional parameter r' hr' => ?_⟩
  rw [← hself, hr'.resolve?] at hc
  refine ⟨convertEach_eq_mapM _ parameter ms r', fun hnull => ?_, fun v hv => boundAs_named hv hc hconverter⟩
  exact (boundAs_named hnull hc hconverter).2 (.inr fun d _ => rfl)

/-- A long bound as a text, after a value that is bound by its own type. -/
theorem convertAll_named_text :
    ∃ (s : Scope) (sql content : String) (marked : MarkedSql) (p : Placeholder) (r : Registry),
      sql = "#\x7ba\x7d, #\x7bb,javaType=long,typeHandler=string\x7d" ∧ (Registry.builtin .name).Agrees r ∧
      (run (s.extract .question sql) r).1 = .ok marked ∧ (placeholder.tokens sql)[1]? = some content ∧
      Placeholder.parse content = .ok p ∧ p.option? "typeHandler" = some "string" ∧
      ∃ m c, marked.mappings[1]? = some m ∧ m.property = p.property ∧ (Registry.builtin .name).resolve? "string" m.type = some c ∧
        ∀ (additional : Bindings) (parameter : Value) (r' : Registry), (Registry.builtin .name).Agrees r' →
          let b : BoundSql := ⟨marked, additional⟩
          (run (b.convertAll parameter) r').1 = marked.mappings.mapM (b.boundAs parameter r') ∧
            (b.resolve parameter m = .ok .null → b.boundAs parameter r' m = .ok .null) ∧
            ∀ v, b.resolve parameter m = .ok v →
              (b.boundAs parameter r' m = (c.toParameter v).mapError Error.evaluation ↔
                c ≠ .object ∨ ∀ d, m.unnamed? r' v = some d → d.toParameter v = .ok v) := by
  let s : Scope := ⟨[], .object, []⟩
  let sql := "#\x7ba\x7d, #\x7bb,javaType=long,typeHandler=string\x7d"
  let marked : MarkedSql := ⟨"?, ?", [⟨"a", .object, none, none, .input, none, none, some "object"⟩,
    ⟨"b", .builtin .long, none, none, .input, none, none, some "string"⟩]⟩
  have hextract : (run (s.extract .question sql) (Registry.builtin .name)).1.toOption = some marked := by decide +kernel
  have hcontent : (placeholder.tokens sql)[1]? = some "b,javaType=long,typeHandler=string" := by decide +kernel
  have hparse : Placeholder.parse "b,javaType=long,typeHandler=string" =
      .ok ⟨"b", none, [("javaType", "long"), ("typeHandler", "string")]⟩ := rfl
  exact ⟨s, sql, _, marked, _, Registry.builtin .name, rfl, .refl _, toOption_eq_some.1 hextract, hcontent, hparse, rfl,
    convertAll_named (.refl _) (toOption_eq_some.1 hextract) hcontent hparse rfl⟩

/-- The converter for any value leaves 300 as it is. Where a placeholder for a byte names it, that of the byte is applied. -/
theorem object_converter_ignored :
    ∃ (s : Scope) (sql : String) (marked : MarkedSql) (m : ParameterMapping) (parameter : Value),
      sql = "#\x7bx,javaType=byte,typeHandler=object\x7d" ∧ parameter = .map [("x", .int 300)] ∧
      (run (s.extract .question sql) (Registry.builtin .name)).1 = .ok marked ∧
      placeholder.tokens sql = ["x,javaType=byte,typeHandler=object"] ∧ marked.mappings = [m] ∧
      (Registry.builtin .name).resolve? "object" m.type = some .object ∧
      BoundSql.resolve ⟨marked, []⟩ parameter m = .ok (.int 300) ∧ Converter.object.toParameter (.int 300) = .ok (.int 300) ∧
      (run (BoundSql.convertAll ⟨marked, []⟩ parameter) (Registry.builtin .name)).1 =
        .error (.evaluation (.outOfRange 300 "byte")) := by
  let s : Scope := ⟨[], .object, []⟩
  let sql := "#\x7bx,javaType=byte,typeHandler=object\x7d"
  let m : ParameterMapping := ⟨"x", .builtin .byte, none, none, .input, none, none, some "object"⟩
  have hextract : (run (s.extract .question sql) (Registry.builtin .name)).1.toOption = some ⟨"?", [m]⟩ := by decide +kernel
  have hpath : Path.parse m.property = ⟨"x", .property "x", []⟩ := by decide +kernel
  have hvalue : BoundSql.resolve ⟨⟨"?", [m]⟩, []⟩ (.map [("x", .int 300)]) m = .ok (.int 300) := by
    rw [resolve, if_neg (by decide), find?, hpath]
    rfl
  have hchosen : m.chosen? (Registry.builtin .name) (.int 300) = some (.integer .byte) := by decide +kernel
  have hrange : (Converter.integer .byte).toParameter (.int 300) = .error (.outOfRange 300 "byte") := rfl
  have hbound : BoundSql.boundAs ⟨⟨"?", [m]⟩, []⟩ (.map [("x", .int 300)]) (Registry.builtin .name) m =
      .error (.evaluation (.outOfRange 300 "byte")) := by
    rw [boundAs, hvalue, mapError_of_ok, except_ok_bind, hchosen, applied, hrange, mapError_of_error]
  refine ⟨s, sql, ⟨"?", [m]⟩, m, _, rfl, rfl, toOption_eq_some.1 hextract, by decide +kernel, rfl, by decide +kernel, hvalue, rfl, ?_⟩
  rw [convertAll, convertEach_eq_mapM, List.mapM_cons, hbound, except_error_bind]

end BoundSql

end SqlTemplate
