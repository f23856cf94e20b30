import Mathlib.Data.List.Basic
import Mathlib.Data.List.Induction
import SqlTemplate.Proofs.Conversion.Agreement

/-! # Runs of a registry

A run is a list of registrations and look-ups. A look-up gives an enumeration its default converter only if nothing has been
registered for it by then, so that the order of the two can be told from later answers.
-/

namespace SqlTemplate

theorem keys_assign {α β : Type} [DecidableEq α] (key : α) (value : β) (entries : List (α × β)) :
    (assign key value entries).map Prod.fst =
      if key ∈ entries.map Prod.fst then entries.map Prod.fst else entries.map Prod.fst ++ [key] := by
  induction entries with
  | nil => rfl
  | cons entry rest ih =>
    obtain ⟨k, v⟩ := entry
    rw [assign]
    by_cases hk : k = key
    · simp [hk]
    · rw [if_neg hk, List.map_cons, ih]
      by_cases hmem : key ∈ rest.map Prod.fst <;> simp [hmem, Ne.symm hk]

theorem assign_ne_nil {α β : Type} [DecidableEq α] (key : α) (value : β) (entries : List (α × β)) : assign key value entries ≠ [] := by
  cases entries with
  | nil => simp [assign]
  | cons entry rest =>
    rw [assign]
    split <;> simp

theorem nodup_assign {α β : Type} [DecidableEq α] {entries : List (α × β)} (h : (entries.map Prod.fst).Nodup) (key : α) (value : β) :
    ((assign key value entries).map Prod.fst).Nodup := by
  rw [keys_assign]
  split
  · exact h
  · rename_i hmem
    exact List.nodup_append.2 ⟨h, by simp, by simp; grind⟩

/-- With each key only once, what is found is what is there. -/
theorem lookup_eq_some_iff {α β : Type} [BEq α] [LawfulBEq α] {entries : List (α × β)} (h : (entries.map Prod.fst).Nodup) {key : α}
    {value : β} : entries.lookup key = some value ↔ (key, value) ∈ entries := by
  induction entries with
  | nil => simp
  | cons entry rest ih =>
    obtain ⟨k, v⟩ := entry
    obtain ⟨hk, hrest⟩ := List.nodup_cons.1 h
    rw [List.lookup_cons, List.mem_cons]
    by_cases heq : key = k
    · subst heq
      have hnot : (key, value) ∉ rest := fun hmem => hk (List.mem_map.2 ⟨_, hmem, rfl⟩)
      simp [hnot, eq_comm]
    · simp [heq, beq_eq_false_iff_ne.2 heq, ih hrest]

namespace Registry

/-- A use of a registry. -/
inductive Call
  | register (t : ValueType) (s : Option SqlType) (c : Converter)
  | registerSqlType (s : SqlType) (c : Converter)
  | find (t : ValueType) (s : Option SqlType)
  | has (t : ValueType)
  | knows (t : ValueType)
  | resolve (name : String) (t : ValueType)

namespace Call

def isRegistration : Call → Bool
  | .register .. | .registerSqlType .. => true
  | _ => false

/-- The registry after a call. -/
def apply (r : Registry) : Call → Registry
  | .register t s c => r.register t s c
  | .registerSqlType s c => r.registerSqlType s c
  | .find t s => (Lookup.converter? t s r).2
  | .has t => (Lookup.has t r).2
  | .knows _ | .resolve _ _ => r

/-- The converter that the call registers for the type together with the SQL type. -/
def assigned? (t : ValueType) (s : Option SqlType) : Call → Option Converter
  | .register u k c => if u = t ∧ k = s then some c else none
  | _ => none

/-- Whether the call registers a converter for the type. -/
def registers (t : ValueType) : Call → Bool
  | .register u _ _ => u = t
  | _ => false

/-- Whether the call looks for the converters of the type. -/
def looksUp (t : ValueType) : Call → Bool
  | .find u _ | .has u => u = t
  | _ => false

end Call

/-- The registry after a run. -/
def after (r : Registry) (calls : List Call) : Registry := calls.foldl Call.apply r

/-- The name of the converter that is found for the type. -/
def answer (r : Registry) (t : ValueType) (s : Option SqlType) : Option String := (Lookup.converter? t s r).1.map Converter.name

/-- The converter last registered for the type together with the SQL type. -/
def registered (calls : List Call) (t : ValueType) (s : Option SqlType) : Option Converter :=
  calls.reverse.findSome? (Call.assigned? t s)

/-- The first call that has to do with the converters of the type. -/
def firstUse (calls : List Call) (t : ValueType) : Option Call := calls.find? fun call => call.registers t || call.looksUp t

/-- Whether an enumeration was looked up before anything was registered for it. -/
def preset (calls : List Call) (t : ValueType) : Bool := t.isEnumeration && (firstUse calls t).any (Call.looksUp t)

/-- Whether an enumeration is looked up, now at the latest, before anything is registered for it. -/
def defaulted (calls : List Call) (t : ValueType) : Bool := t.isEnumeration && (firstUse calls t).all (Call.looksUp t)

variable {r : Registry}

/-! ## One call -/

theorem named_byType (r : Registry) (c : Converter) : (r.named c).byType = r.byType := by
  unfold named
  split <;> rfl

theorem named_enumStyle (r : Registry) (c : Converter) : (r.named c).enumStyle = r.enumStyle := by
  unfold named
  split <;> rfl

theorem lookup_register (r : Registry) (t u : ValueType) (s : Option SqlType) (c : Converter) :
    (r.register u s c).byType.lookup t =
      if t = u then some (assign s c ((r.byType.lookup t).getD [])) else r.byType.lookup t := by
  simp only [register, named_byType, lookup_assign]
  split
  · rename_i h
    rw [h]
  · rfl

theorem lookup_registerSqlType (r : Registry) (t : ValueType) (s : SqlType) (c : Converter) :
    (r.registerSqlType s c).byType.lookup t = r.byType.lookup t := by
  simp only [registerSqlType, named_byType]

theorem lookup_touch_of_ne {t u : ValueType} (h : t ≠ u) (r : Registry) : (r.touch u).byType.lookup t = r.byType.lookup t := by
  unfold touch
  split
  · split
    · rfl
    · simp only [lookup_assign, if_neg h]
  · rfl

theorem touch_enumStyle (r : Registry) (t : ValueType) : (r.touch t).enumStyle = r.enumStyle := by
  unfold touch
  split
  · split <;> rfl
  · rfl

theorem apply_enumStyle (r : Registry) (call : Call) : (call.apply r).enumStyle = r.enumStyle := by
  cases call with
  | register t s c => exact named_enumStyle r c
  | registerSqlType s c => exact named_enumStyle r c
  | find t s => exact touch_enumStyle r t
  | has t => exact touch_enumStyle r t
  | knows t => rfl
  | resolve name t => rfl

theorem lookup_apply (r : Registry) (t : ValueType) (call : Call) :
    (call.apply r).byType.lookup t =
      match call with
      | .register u s c => if t = u then some (assign s c ((r.byType.lookup t).getD [])) else r.byType.lookup t
      | .find u _ | .has u => if t = u then r.choices t else r.byType.lookup t
      | _ => r.byType.lookup t := by
  have htouch (u : ValueType) : (r.touch u).byType.lookup t = if t = u then r.choices t else r.byType.lookup t := by
    split
    · rename_i h
      rw [h, lookup_touch]
    · rename_i h
      exact lookup_touch_of_ne h r
  cases call with
  | register u s c => exact lookup_register r t u s c
  | registerSqlType s c => exact lookup_registerSqlType r t s c
  | find u s => exact htouch u
  | has u => exact htouch u
  | knows u => rfl
  | resolve name u => rfl

/-! ## Runs -/

theorem after_concat (r : Registry) (calls : List Call) (call : Call) :
    r.after (calls ++ [call]) = call.apply (r.after calls) := by
  rw [after, List.foldl_append]
  rfl

theorem after_enumStyle (r : Registry) (calls : List Call) : (r.after calls).enumStyle = r.enumStyle := by
  induction calls using List.reverseRecOn with
  | nil => rfl
  | append_singleton calls call ih => rw [after_concat, apply_enumStyle, ih]

theorem registered_concat (calls : List Call) (call : Call) (t : ValueType) (s : Option SqlType) :
    registered (calls ++ [call]) t s = (call.assigned? t s).or (registered calls t s) := by
  unfold registered
  rw [List.reverse_append, List.reverse_singleton, List.singleton_append, List.findSome?_cons]
  cases call.assigned? t s <;> rfl

theorem firstUse_concat (calls : List Call) (call : Call) (t : ValueType) :
    firstUse (calls ++ [call]) t =
      (firstUse calls t).or (if call.registers t || call.looksUp t then some call else none) := by
  unfold firstUse
  rw [List.find?_append, List.find?_singleton]

theorem preset_concat (calls : List Call) (call : Call) (t : ValueType) :
    preset (calls ++ [call]) t = (preset calls t || (t.isEnumeration && (firstUse calls t).isNone && call.looksUp t)) := by
  unfold preset
  rw [firstUse_concat]
  cases firstUse calls t with
  | some first => simp
  | none => by_cases h : call.looksUp t <;> by_cases h' : call.registers t <;> simp [h, h']

/-- The converters that a run leaves for an enumeration that had none. -/
structure Leaves (style : EnumStyle) (calls : List Call) (e : EnumType) (found : Option Choices) : Prop where
  isSome : found.isSome = (firstUse calls (.enumeration e)).isSome
  nonempty : found ≠ some []
  nodup : ((found.getD []).map Prod.fst).Nodup
  lookup : ∀ s, (found.getD []).lookup s = (registered calls (.enumeration e) s).or
    (if s = none ∧ preset calls (.enumeration e) then some (.enumeration style e) else none)

theorem Leaves.register {style : EnumStyle} {calls : List Call} {e : EnumType} {found : Option Choices} (h : Leaves style calls e found)
    (s : Option SqlType) (c : Converter) :
    Leaves style (calls ++ [.register (.enumeration e) s c]) e (some (assign s c (found.getD []))) := by
  refine ⟨?_, by simp [assign_ne_nil], nodup_assign h.nodup s c, fun k => ?_⟩
  · simp [firstUse_concat, Call.registers]
  · rw [Option.getD_some, lookup_assign, h.lookup, registered_concat, preset_concat]
    by_cases hk : k = s
    · simp [Call.assigned?, hk]
    · simp [Call.assigned?, Call.looksUp, hk, Ne.symm hk]

theorem Leaves.lookedUp {style : EnumStyle} {calls : List Call} {e : EnumType} {found : Option Choices} (h : Leaves style calls e found)
    (call : Call) (hcall : call.looksUp (.enumeration e)) (hnone : ∀ s, call.assigned? (.enumeration e) s = none) :
    Leaves style (calls ++ [call]) e (some (found.getD [(none, .enumeration style e)])) := by
  obtain ⟨hsome, hne, hnodup, hlookup⟩ := h
  refine ⟨?_, ?_, ?_, fun k => ?_⟩
  · simp [firstUse_concat, hcall]
  · cases found with
    | none => simp
    | some choices => exact hne
  · cases found with
    | none => simp
    | some choices => exact hnodup
  · rw [registered_concat, preset_concat, hnone, Option.none_or]
    cases found with
    | none =>
      have hfirst : firstUse calls (.enumeration e) = none := by simpa using hsome.symm
      have hregistered : registered calls (.enumeration e) k = none := by
        simpa [preset, hfirst, eq_comm] using hlookup k
      rw [hregistered]
      by_cases hk : k = none <;> simp [hcall, hfirst, hk, ValueType.isEnumeration]
    | some choices =>
      obtain ⟨first, hfirst⟩ := Option.isSome_iff_exists.1 hsome.symm
      simp [hfirst, ← hlookup k]

theorem Leaves.other {style : EnumStyle} {calls : List Call} {e : EnumType} {found : Option Choices} (h : Leaves style calls e found)
    {call : Call} (hcall : call.looksUp (.enumeration e) = false) (hcall' : call.registers (.enumeration e) = false)
    (hnone : ∀ s, call.assigned? (.enumeration e) s = none) : Leaves style (calls ++ [call]) e found := by
  refine ⟨?_, h.nonempty, h.nodup, fun k => ?_⟩
  · simpa [firstUse_concat, hcall, hcall'] using h.isSome
  · rw [h.lookup, registered_concat, preset_concat, hnone, hcall]
    simp

theorem after_leaves {e : EnumType} (h : r.byType.lookup (.enumeration e) = none) (calls : List Call) :
    Leaves r.enumStyle calls e ((r.after calls).byType.lookup (.enumeration e)) := by
  induction calls using List.reverseRecOn with
  | nil => exact ⟨by simp [after, h, firstUse], by simp [after, h], by simp [after, h], by simp [after, h, registered, preset, firstUse]⟩
  | append_singleton calls call ih =>
    have hstyle := after_enumStyle r calls
    rw [after_concat, lookup_apply]
    cases call with
    | register u s c =>
      by_cases hu : .enumeration e = u
      · subst hu
        simpa using ih.register s c
      · simpa [hu] using ih.other rfl (by simpa [Call.registers] using Ne.symm hu) (by simp [Call.assigned?, Ne.symm hu])
    | registerSqlType s c => exact ih.other rfl rfl fun _ => rfl
    | find u s =>
      by_cases hu : .enumeration e = u
      · subst hu
        have hleaves := ih.lookedUp (.find (.enumeration e) s) (by simp [Call.looksUp]) fun _ => rfl
        simpa [choices, hstyle] using hleaves
      · simpa [hu] using ih.other (by simpa [Call.looksUp] using Ne.symm hu) rfl fun _ => rfl
    | has u =>
      by_cases hu : .enumeration e = u
      · subst hu
        have hleaves := ih.lookedUp (.has (.enumeration e)) (by simp [Call.looksUp]) fun _ => rfl
        simpa [choices, hstyle] using hleaves
      · simpa [hu] using ih.other (by simpa [Call.looksUp] using Ne.symm hu) rfl fun _ => rfl
    | knows u => exact ih.other rfl rfl fun _ => rfl
    | resolve name u => exact ih.other rfl rfl fun _ => rfl

/-! ## Answers -/

theorem answer_eq (r : Registry) (t : ValueType) (s : Option SqlType) :
    r.answer t s = ((r.choices t).bind fun found => choose? found s).map Converter.name := by
  rw [← find?_touch]
  rfl

theorem sole?_eq_some_iff {found : Choices} (hne : found ≠ []) {name : String} :
    (sole? found).map Converter.name = some name ↔ ∀ choice ∈ found, choice.2.name = name := by
  cases found with
  | nil => exact absurd rfl hne
  | cons choice found =>
    obtain ⟨k, c⟩ := choice
    rw [sole?, List.forall_mem_cons]
    split
    · rename_i hall
      simp only [List.all_eq_true, beq_iff_eq] at hall
      simp only [Option.map_some, Option.some.injEq]
      exact ⟨fun h => ⟨h, fun d hd => (hall d hd).trans h⟩, fun h => h.1⟩
    · rename_i hall
      simp only [Option.map_none, reduceCtorEq, false_iff]
      rintro ⟨hc, hfound⟩
      apply hall
      simp only [List.all_eq_true, beq_iff_eq]
      intro d hd
      rw [hfound d hd, hc]

theorem choose?_eq (found : Choices) (s : Option SqlType) :
    choose? found s = (found.lookup s).or ((found.lookup none).or (sole? found)) := by
  cases s with
  | some s => simp [choose?]
  | none => cases h : found.lookup none <;> simp [choose?, h]

section Enumeration

variable {e : EnumType} {calls : List Call} {s : Option SqlType}

/-- What a look-up at the end of a run chooses from. -/
theorem choices_after (h : r.byType.lookup (.enumeration e) = none) (calls : List Call) :
    ∃ found, (r.after calls).choices (.enumeration e) = some found ∧ found ≠ [] ∧ (found.map Prod.fst).Nodup ∧
      ∀ s, found.lookup s = (registered calls (.enumeration e) s).or
        (if s = none ∧ defaulted calls (.enumeration e) then some (.enumeration r.enumStyle e) else none) := by
  have hlooksUp : (Call.has (.enumeration e)).looksUp (.enumeration e) = true := by simp [Call.looksUp]
  have hpreset : preset (calls ++ [.has (.enumeration e)]) (.enumeration e) = defaulted calls (.enumeration e) := by
    rw [preset_concat, hlooksUp]
    unfold preset defaulted
    cases firstUse calls (.enumeration e) <;> simp
  have hleaves := (after_leaves h calls).lookedUp _ hlooksUp fun _ => rfl
  refine ⟨_, congrArg some ?_, fun hnil => hleaves.nonempty (congrArg some hnil), hleaves.nodup, fun s => ?_⟩
  · rw [after_enumStyle]
  · have hlookup := hleaves.lookup s
    rw [hpreset, registered_concat] at hlookup
    exact hlookup

/-- A converter registered for the SQL type is found, or else the one for all others. -/
theorem answer_of_registered (h : r.byType.lookup (.enumeration e) = none) {c : Converter}
    (hc : (registered calls (.enumeration e) s).or (registered calls (.enumeration e) none) = some c) :
    (r.after calls).answer (.enumeration e) s = some c.name := by
  obtain ⟨found, hfound, -, -, hlookup⟩ := choices_after h calls
  rw [answer_eq, hfound, Option.bind_some, choose?_eq, hlookup, hlookup]
  cases hs : registered calls (.enumeration e) s with
  | some d =>
    rw [hs, Option.some_or, Option.some.injEq] at hc
    simp [hc]
  | none =>
    rw [hs, Option.none_or] at hc
    have hne : s ≠ none := fun hnil => by simp [hnil, hc] at hs
    simp [hc, hne]

theorem answer_of_defaulted (h : r.byType.lookup (.enumeration e) = none)
    (hnone : (registered calls (.enumeration e) s).or (registered calls (.enumeration e) none) = none)
    (hdefault : defaulted calls (.enumeration e)) :
    (r.after calls).answer (.enumeration e) s = some r.enumStyle.converterName := by
  obtain ⟨found, hfound, -, -, hlookup⟩ := choices_after h calls
  obtain ⟨hs, hgeneral⟩ := Option.or_eq_none_iff.1 hnone
  rw [answer_eq, hfound, Option.bind_some, choose?_eq, hlookup, hlookup, hs, hgeneral, hdefault]
  cases s <;> simp [Converter.name]

/-- Where only other SQL types have a converter, it is found if they agree on its name. -/
theorem answer_of_others (h : r.byType.lookup (.enumeration e) = none)
    (hnone : (registered calls (.enumeration e) s).or (registered calls (.enumeration e) none) = none)
    (hdefault : defaulted calls (.enumeration e) = false) {name : String} :
    (r.after calls).answer (.enumeration e) s = some name ↔
      ∀ k c, registered calls (.enumeration e) k = some c → c.name = name := by
  obtain ⟨found, hfound, hne, hnodup, hlookup⟩ := choices_after h calls
  obtain ⟨hs, hgeneral⟩ := Option.or_eq_none_iff.1 hnone
  simp only [hdefault, Bool.false_eq_true, and_false, if_false, Option.or_none] at hlookup
  rw [answer_eq, hfound, Option.bind_some, choose?_eq, hlookup, hlookup, hs, hgeneral, Option.none_or, Option.none_or,
    sole?_eq_some_iff hne, Prod.forall]
  simp only [← lookup_eq_some_iff hnodup, hlookup]

end Enumeration

/-! ## Registrations alone -/

theorem registered_filter (calls : List Call) (t : ValueType) (s : Option SqlType) :
    registered (calls.filter Call.isRegistration) t s = registered calls t s := by
  induction calls using List.reverseRecOn with
  | nil => rfl
  | append_singleton calls call ih =>
    rw [List.filter_append, List.filter_singleton, registered_concat]
    cases hcall : call.isRegistration with
    | true => rw [cond_true, registered_concat, ih]
    | false =>
      have hnone : call.assigned? t s = none := by
        cases call with
        | register u k c => cases hcall
        | _ => rfl
      rw [cond_false, List.append_nil, ih, hnone, Option.none_or]

/-- A look-up changes nothing for a type that is no enumeration. -/
theorem lookup_after_filter {t : ValueType} (ht : t.isEnumeration = false) (r : Registry) (calls : List Call) :
    (r.after (calls.filter Call.isRegistration)).byType.lookup t = (r.after calls).byType.lookup t := by
  have hchoices (r : Registry) : r.choices t = r.byType.lookup t := by
    cases t with
    | enumeration e => cases ht
    | builtin b => rfl
    | record name properties => rfl
  induction calls using List.reverseRecOn with
  | nil => rfl
  | append_singleton calls call ih =>
    rw [List.filter_append, List.filter_singleton, after_concat, lookup_apply]
    cases call with
    | register u k c => rw [Call.isRegistration, cond_true, after_concat, lookup_apply, ih]
    | registerSqlType k c => rw [Call.isRegistration, cond_true, after_concat, lookup_apply, ih]
    | find u k => simpa [Call.isRegistration, hchoices] using ih
    | has u => simpa [Call.isRegistration, hchoices] using ih
    | knows u => simpa [Call.isRegistration] using ih
    | resolve name u => simpa [Call.isRegistration] using ih

theorem answer_after_filter {t : ValueType} (ht : t.isEnumeration = false) (r : Registry) (calls : List Call) (s : Option SqlType) :
    (r.after (calls.filter Call.isRegistration)).answer t s = (r.after calls).answer t s := by
  have hlookup := lookup_after_filter ht r calls
  rw [answer_eq, answer_eq]
  cases t with
  | enumeration e => cases ht
  | builtin b => exact congrArg (fun found => (Option.bind found fun found => choose? found s).map Converter.name) hlookup
  | record name properties => exact congrArg (fun found => (Option.bind found fun found => choose? found s).map Converter.name) hlookup

/-! ## The built-in registry -/

/-- The registrations that make the built-in registry. -/
def builtinCalls : List Call :=
  builtinTypes.map (fun (t, s, c) => .register (.builtin t) s c) ++ builtinSqlTypes.map fun (s, c) => .registerSqlType s c

theorem builtin_eq (style : EnumStyle) : builtin style = (empty style).after builtinCalls := by
  unfold builtin after builtinCalls
  rw [List.foldl_append, List.foldl_map, List.foldl_map]
  rfl

theorem enumStyle_builtin (style : EnumStyle) : (builtin style).enumStyle = style := by
  rw [builtin_eq, after_enumStyle]
  rfl

/-- The built-in converters are for built-in types. -/
theorem lookup_builtin (style : EnumStyle) (e : EnumType) : (builtin style).byType.lookup (.enumeration e) = none := by
  have hunused : firstUse builtinCalls (.enumeration e) = none := by
    unfold firstUse builtinCalls
    rw [List.find?_eq_none]
    intro call hmem
    rw [List.mem_append, List.mem_map, List.mem_map] at hmem
    obtain ⟨entry, -, rfl⟩ | ⟨entry, -, rfl⟩ := hmem <;> simp [Call.registers, Call.looksUp]
  have hleaves := after_leaves (r := empty style) (e := e) rfl builtinCalls
  rw [builtin_eq, ← Option.isNone_iff_eq_none, ← Option.not_isSome, hleaves.isSome, hunused]
  rfl

/-- Two runs that register the same converters give the same answers, except that a default converter, once a look-up has put it in,
hides the converters that are registered for other SQL types only. -/
theorem answer_of_registrations (style : EnumStyle) (calls calls' : List Call)
    (h : calls.filter Call.isRegistration = calls'.filter Call.isRegistration) (t : ValueType) (s : Option SqlType) :
    ((builtin style).after calls).answer t s = ((builtin style).after calls').answer t s ↔
      defaulted calls t = defaulted calls' t ∨ (registered calls t s).isSome ∨ (registered calls t none).isSome ∨
        ∀ k c, registered calls t k = some c → c.name = style.converterName := by
  have hregistered (k : Option SqlType) : registered calls' t k = registered calls t k := by
    rw [← registered_filter, ← h, registered_filter]
  cases t with
  | builtin b =>
    refine iff_of_true ?_ (.inl rfl)
    rw [← answer_after_filter rfl, h, answer_after_filter rfl]
  | record name properties =>
    refine iff_of_true ?_ (.inl rfl)
    rw [← answer_after_filter rfl, h, answer_after_filter rfl]
  | enumeration e =>
    have hnew := lookup_builtin style e
    have hstyle := enumStyle_builtin style
    cases hor : (registered calls (.enumeration e) s).or (registered calls (.enumeration e) none) with
    | some c =>
      have hor' := hor
      rw [← hregistered, ← hregistered] at hor'
      refine iff_of_true ?_ (.inr ?_)
      · rw [answer_of_registered hnew hor, answer_of_registered hnew hor']
      · rcases Option.or_eq_some_iff.1 hor with hs | ⟨-, hgeneral⟩
        · exact .inl (by rw [hs]; rfl)
        · exact .inr (.inl (by rw [hgeneral]; rfl))
    | none =>
      obtain ⟨hs, hgeneral⟩ := Option.or_eq_none_iff.1 hor
      have hor' := hor
      rw [← hregistered, ← hregistered] at hor'
      simp only [hs, hgeneral, Option.isSome_none, Bool.false_eq_true, false_or]
      -- A look-up may have put the default converter in during one of the runs, both or neither.
      cases hd : defaulted calls (.enumeration e) <;> cases hd' : defaulted calls' (.enumeration e)
      · refine iff_of_true (Option.ext fun name => ?_) (.inl rfl)
        rw [answer_of_others hnew hor hd, answer_of_others hnew hor' hd']
        simp only [hregistered]
      · rw [answer_of_defaulted hnew hor' hd', answer_of_others hnew hor hd, hstyle]
        simp
      · rw [answer_of_defaulted hnew hor hd, eq_comm, answer_of_others hnew hor' hd', hstyle]
        simp [hregistered]
      · refine iff_of_true ?_ (.inl rfl)
        rw [answer_of_defaulted hnew hor hd, answer_of_defaulted hnew hor' hd']

/-- With a converter for all SQL types the look-ups before it make no difference. -/
theorem answer_of_registrations_general :
    ∃ t calls calls', t = .enumeration ⟨"Color", ["RED"]⟩ ∧
      calls = [.has t, .register t (some .varchar) .boolean, .find t none, .register t none .object] ∧
      calls' = [.register t (some .varchar) .boolean, .register t none .object] ∧
      calls.filter Call.isRegistration = calls'.filter Call.isRegistration ∧
      ((builtin .ordinal).after calls).answer t none = ((builtin .ordinal).after calls').answer t none ∧
      ((builtin .ordinal).after calls).answer t none = some "object" := by
  refine ⟨_, _, _, rfl, rfl, rfl, rfl, ?_, by decide +kernel⟩
  refine (answer_of_registrations .ordinal _ _ ?_ _ none).2 (.inr (.inl ?_))
  · rfl
  · decide +kernel

/-- A look-up before the first registration changes what is found after it. -/
theorem answer_changed :
    ∃ t calls, t = .enumeration ⟨"Color", ["RED"]⟩ ∧ calls = [.has t, .register t (some .varchar) (.text .string)] ∧
      ((builtin .name).after calls).answer t none = some "enum_name" ∧
      ((builtin .name).after (calls.filter Call.isRegistration)).answer t none = some "string" :=
  ⟨_, _, rfl, rfl, by decide +kernel⟩

end Registry

end SqlTemplate
