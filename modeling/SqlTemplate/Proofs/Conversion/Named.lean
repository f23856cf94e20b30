import SqlTemplate.Proofs.Conversion.Lookups

/-! # Converters by name

A name stands for the first converter that was registered under it. The converter of an enumeration carries its enumeration, so
that once one is registered its name no longer stands for those of other enumerations.
-/

namespace SqlTemplate

/-! ## What a converter of an enumeration takes -/

/-- The first position of a variant. -/
def EnumType.FirstAt (e : EnumType) (variant : String) (n : Nat) : Prop :=
  e.variants[n]? = some variant ∧ ∀ m < n, e.variants[m]? ≠ some variant

theorem EnumType.ordinal?_eq_some_iff {e : EnumType} {variant : String} {n : Nat} :
    e.ordinal? variant = some n ↔ e.FirstAt variant n := by
  unfold ordinal? FirstAt
  rw [List.idxOf?_eq_some_iff, List.getElem?_eq_some_iff]
  constructor
  · rintro ⟨hn, heq, hbefore⟩
    refine ⟨⟨hn, heq⟩, fun m hm => ?_⟩
    rw [List.getElem?_eq_getElem (by omega), ne_eq, Option.some.injEq]
    exact hbefore m hm
  · rintro ⟨⟨hn, heq⟩, hbefore⟩
    refine ⟨hn, heq, fun m hm heq' => hbefore m hm ?_⟩
    rw [List.getElem?_eq_getElem (by omega), heq']

/-- What a variant is bound as, either itself or its first position. -/
def EnumStyle.Binds (style : EnumStyle) (e : EnumType) (variant : String) (p : Value) : Prop :=
  match style with
  | .name => variant ∈ e.variants ∧ p = .string variant
  | .ordinal => ∃ n, e.FirstAt variant n ∧ p = .ofNat n

/-- Besides null the converter takes exactly the variants of the enumeration. -/
def Converter.Serves (c : Converter) (style : EnumStyle) (e : EnumType) : Prop :=
  ∀ v p, c.toParameter v = .ok p ↔ (v = .null ∧ p = .null) ∨ ∃ variant, v = .string variant ∧ style.Binds e variant p

theorem Converter.enumeration_serves (style : EnumStyle) (e : EnumType) : (Converter.enumeration style e).Serves style e := by
  intro v p
  cases v with
  | null => simp [toParameter, Value.isNull, eq_comm]
  | string variant =>
    cases style with
    | name =>
      have hsome : (e.ordinal? variant).isSome ↔ variant ∈ e.variants := List.isSome_idxOf?
      simp only [toParameter, Value.isNull, convert, toVariant, EnumStyle.Binds, hsome]
      by_cases hmem : variant ∈ e.variants <;> simp [hmem, notVariant, eq_comm]
    | ordinal =>
      simp only [toParameter, Value.isNull, convert, toOrdinal, EnumStyle.Binds, ← EnumType.ordinal?_eq_some_iff]
      cases h : e.ordinal? variant with
      | none => simp [h, notVariant]
      | some n => simp [h, eq_comm]
  | _ => cases style <;> simp [toParameter, Value.isNull, convert, toVariant, toOrdinal, notVariant]

/-- A converter serves the enumerations that bind the same variants alike. -/
theorem Converter.serves_iff (style : EnumStyle) (e e' : EnumType) :
    (Converter.enumeration style e).Serves style e' ↔ ∀ variant p, style.Binds e variant p ↔ style.Binds e' variant p := by
  have hserves := enumeration_serves style e
  constructor
  · intro h variant p
    have hsame := (hserves (.string variant) p).symm.trans (h (.string variant) p)
    simpa using hsame
  · intro h v p
    rw [hserves v p]
    simp only [h]

theorem Converter.name_eq_converterName {c : Converter} {style : EnumStyle} (h : c.name = style.converterName) :
    ∃ e, c = .enumeration style e := by
  cases c with
  | enumeration style' e =>
    refine ⟨e, congrArg (Converter.enumeration · e) ?_⟩
    cases style <;> cases style' <;> simp_all [name, EnumStyle.converterName]
  | integer size => cases size <;> cases style <;> simp [name, IntegerSize.name, EnumStyle.converterName] at h
  | float size => cases size <;> cases style <;> simp [name, FloatSize.name, EnumStyle.converterName] at h
  | text kind => cases kind <;> cases style <;> simp [name, TextKind.name, EnumStyle.converterName] at h
  | bytes kind => cases kind <;> cases style <;> simp [name, BytesKind.name, EnumStyle.converterName] at h
  | temporal kind => cases kind <;> cases style <;> simp [name, TemporalKind.name, EnumStyle.converterName] at h
  | _ => cases style <;> simp [name, EnumStyle.converterName] at h

namespace Registry

/-! ## Names -/

def Call.converter? : Call → Option Converter
  | .register _ _ c | .registerSqlType _ c => some c
  | _ => none

/-- The first converter of the name that was registered. -/
def firstNamed (calls : List Call) (name : String) : Option Converter :=
  (calls.filterMap Call.converter?).find? fun c => c.name == name

theorem named?_named (r : Registry) (c : Converter) (name : String) :
    (r.named c).named? name = (r.named? name).or (if c.name = name then some c else none) := by
  unfold named named?
  split
  · rename_i hbound
    split
    · rename_i hname
      obtain ⟨d, hd⟩ := Option.isSome_iff_exists.1 hbound
      rw [← hname, hd, Option.some_or]
    · rw [Option.or_none]
  · rename_i hfree
    rw [Dict.get?_insert]
    by_cases hname : c.name = name
    · have hnone : Dict.get? r.byName name = none := by simpa [Dict.contains, hname] using hfree
      simp [hname, hnone]
    · simp [hname, Ne.symm hname]

theorem named?_touch (r : Registry) (t : ValueType) (name : String) : (r.touch t).named? name = r.named? name := by
  unfold named?
  rw [(Agrees.touch r t).byName]

theorem named?_apply (r : Registry) (call : Call) (name : String) :
    (call.apply r).named? name = (r.named? name).or (firstNamed [call] name) := by
  cases call with
  | register t s c => exact (named?_named r c name).trans (by simp [firstNamed, Call.converter?])
  | registerSqlType s c => exact (named?_named r c name).trans (by simp [firstNamed, Call.converter?])
  | find t s => exact (named?_touch r t name).trans (by simp [firstNamed, Call.converter?])
  | has t => exact (named?_touch r t name).trans (by simp [firstNamed, Call.converter?])
  | knows t => simp [Call.apply, firstNamed, Call.converter?]
  | resolve other t => simp [Call.apply, firstNamed, Call.converter?]

theorem named?_after (r : Registry) (calls : List Call) (name : String) :
    (r.after calls).named? name = (r.named? name).or (firstNamed calls name) := by
  induction calls using List.reverseRecOn with
  | nil => simp [after, firstNamed]
  | append_singleton calls call ih =>
    rw [after_concat, named?_apply, ih, Option.or_assoc]
    unfold firstNamed
    rw [List.filterMap_append, List.find?_append]

theorem named?_builtin (style k : EnumStyle) : (builtin style).named? k.converterName = none := by
  have hfree : firstNamed builtinCalls k.converterName = none := by
    cases k <;> decide +kernel
  rw [builtin_eq, named?_after, hfree]
  rfl

/-- Where nothing is registered under the name of a style, a converter is made for the enumeration. -/
theorem resolve?_converterName (r : Registry) (k : EnumStyle) (t : ValueType) :
    r.resolve? k.converterName t = (r.named? k.converterName).or
      (match t with
      | .enumeration e => some (.enumeration k e)
      | _ => none) := by
  unfold resolve?
  cases r.named? k.converterName with
  | some c => rfl
  | none =>
    cases t with
    | enumeration e => cases k <;> simp [EnumStyle.converterName]
    | builtin b => rfl
    | record name properties => rfl

/-- The name of a style stands for a converter that serves the type, and for none if the type is no enumeration. -/
def Served (r : Registry) (style : EnumStyle) (t : ValueType) : Prop :=
  match t with
  | .enumeration e => ∃ c, r.resolve? style.converterName t = some c ∧ c.Serves style e
  | _ => r.resolve? style.converterName t = none

/-- A name of a style serves a type unless the first converter that was registered under it is that of another enumeration. -/
theorem served_iff (style k : EnumStyle) (calls : List Call) (t : ValueType) :
    ((builtin style).after calls).Served k t ↔
      ∀ e, firstNamed calls k.converterName = some (.enumeration k e) →
        ∃ e', t = .enumeration e' ∧ ∀ variant p, k.Binds e variant p ↔ k.Binds e' variant p := by
  have hresolve := resolve?_converterName ((builtin style).after calls) k t
  rw [named?_after, named?_builtin, Option.none_or] at hresolve
  cases hfirst : firstNamed calls k.converterName with
  | none =>
    rw [hfirst, Option.none_or] at hresolve
    refine iff_of_true ?_ (by simp)
    cases t with
    | enumeration e => exact ⟨_, hresolve, Converter.enumeration_serves k e⟩
    | builtin b => exact hresolve
    | record name properties => exact hresolve
  | some c =>
    obtain ⟨e, rfl⟩ := Converter.name_eq_converterName (by simpa using List.find?_some hfirst)
    rw [hfirst, Option.some_or] at hresolve
    cases t with
    | enumeration e' => simp [Served, hresolve, Converter.serves_iff]
    | builtin b => simp [Served, hresolve]
    | record name properties => simp [Served, hresolve]

/-- Once the converter of one enumeration is registered, its name stands for it at every type. -/
theorem served_by_other :
    ∃ t u c r, t = .enumeration ⟨"Color", ["RED"]⟩ ∧ u = .enumeration ⟨"Shape", ["SQUARE"]⟩ ∧
      (builtin .name).resolve? "enum_name" t = some c ∧ r = (builtin .name).after [.register t none c] ∧
      r.resolve? "enum_name" u = some c ∧ r.resolve? "enum_name" (.builtin .string) = some c ∧
      c.toParameter (.string "SQUARE") = .error (.notVariant (.string "SQUARE") "Color" ["RED"]) ∧
      ¬ r.Served .name u ∧ ¬ r.Served .name (.builtin .string) := by
  have hcolor : (builtin .name).resolve? "enum_name" (.enumeration ⟨"Color", ["RED"]⟩) =
      some (.enumeration .name ⟨"Color", ["RED"]⟩) := by decide +kernel
  have hnamed : ((builtin .name).after [.register (.enumeration ⟨"Color", ["RED"]⟩) none
      (.enumeration .name ⟨"Color", ["RED"]⟩)]).named? "enum_name" = some (.enumeration .name ⟨"Color", ["RED"]⟩) := by
    decide +kernel
  have herror : (Converter.enumeration .name ⟨"Color", ["RED"]⟩).toParameter (.string "SQUARE") =
      .error (.notVariant (.string "SQUARE") "Color" ["RED"]) := rfl
  refine ⟨_, _, _, _, rfl, rfl, hcolor, rfl, ?_, ?_, herror, ?_, ?_⟩
  · simp [resolve?, hnamed]
  · simp [resolve?, hnamed]
  · rintro ⟨c, hc, hserves⟩
    obtain rfl : _ = c := by simpa [resolve?, hnamed, EnumStyle.converterName] using hc
    have hok := (hserves (.string "SQUARE") (.string "SQUARE")).2 (.inr ⟨_, rfl, by simp [EnumStyle.Binds]⟩)
    rw [herror] at hok
    cases hok
  · simp [Served, resolve?, hnamed, EnumStyle.converterName]

end Registry

end SqlTemplate
