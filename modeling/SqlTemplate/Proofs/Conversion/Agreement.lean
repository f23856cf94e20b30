import SqlTemplate.Conversion.Registry
import SqlTemplate.Proofs.Computation

/-! # Registries that answer alike

A look-up may add the converter of an enumeration to a registry. What any look-up finds stays the same.
-/

namespace SqlTemplate

open SqlTemplate.Computation

theorem lookup_assign {α β : Type} [DecidableEq α] [BEq α] [LawfulBEq α] (key k : α) (value : β) (entries : List (α × β)) :
    List.lookup k (assign key value entries) = if k = key then some value else List.lookup k entries := by
  induction entries with
  | nil => by_cases hk : k = key <;> simp [assign, List.lookup_cons, hk, beq_eq_false_iff_ne.2]
  | cons entry rest ih =>
    obtain ⟨j, v⟩ := entry
    rw [assign]
    by_cases hj : j = key
    · subst hj
      rw [if_pos rfl]
      by_cases hk : k = j <;> simp [List.lookup_cons, hk, beq_eq_false_iff_ne.2]
    · rw [if_neg hj]
      by_cases hk : k = j
      · subst hk
        simp [hj]
      · simp [List.lookup_cons, beq_eq_false_iff_ne.2 hk, ih]

namespace Registry

variable {r r' r'' : Registry}

/-- The converters that a look-up of the type has to choose from. -/
def choices (r : Registry) (t : ValueType) : Option Choices :=
  match t with
  | .enumeration e => some ((r.byType.lookup (.enumeration e)).getD [(none, .enumeration r.enumStyle e)])
  | t => r.byType.lookup t

theorem lookup_touch (r : Registry) (t : ValueType) : (r.touch t).byType.lookup t = r.choices t := by
  cases t with
  | builtin t => rfl
  | record name properties => rfl
  | enumeration e =>
    rw [touch, choices]
    cases h : r.byType.lookup (.enumeration e) with
    | none => simp [lookup_assign]
    | some found => simp [h]

theorem find?_touch (r : Registry) (t : ValueType) (s : Option SqlType) :
    (r.touch t).find? t s = (r.choices t).bind fun choices => choose? choices s := by
  rw [find?, lookup_touch]

@[simp]
theorem choices_touch (r : Registry) (t u : ValueType) : (r.touch t).choices u = r.choices u := by
  cases t with
  | builtin t => rfl
  | record name properties => rfl
  | enumeration e =>
    rw [touch]
    cases h : r.byType.lookup (.enumeration e) with
    | some found => simp
    | none =>
      cases u with
      | enumeration e' =>
        by_cases he : e' = e
        · simp [choices, lookup_assign, he, h]
        · simp [choices, lookup_assign, he]
      | _ => simp [choices, lookup_assign]

/-- Every look-up finds the same in both. -/
structure Agrees (r r' : Registry) : Prop where
  byName : r.byName = r'.byName
  bySqlType : r.bySqlType = r'.bySqlType
  choices : ∀ t, r.choices t = r'.choices t

namespace Agrees

theorem refl (r : Registry) : Agrees r r := ⟨rfl, rfl, fun _ => rfl⟩

theorem symm (h : Agrees r r') : Agrees r' r := ⟨h.byName.symm, h.bySqlType.symm, fun t => (h.choices t).symm⟩

theorem trans (h : Agrees r r') (h' : Agrees r' r'') : Agrees r r'' :=
  ⟨h.byName.trans h'.byName, h.bySqlType.trans h'.bySqlType, fun t => (h.choices t).trans (h'.choices t)⟩

theorem touch (r : Registry) (t : ValueType) : Agrees r (r.touch t) := by
  refine ⟨?_, ?_, fun u => (choices_touch r t u).symm⟩
  all_goals
    unfold Registry.touch
    split
    · split <;> rfl
    · rfl

theorem knows (h : Agrees r r') (t : ValueType) : r.knows t = r'.knows t := by
  cases t with
  | enumeration e => rfl
  | builtin b => exact congrArg Option.isSome (h.choices (.builtin b))
  | record name properties => exact congrArg Option.isSome (h.choices (.record name properties))

theorem resolve? (h : Agrees r r') (name : String) (t : ValueType) : r.resolve? name t = r'.resolve? name t := by
  simp only [Registry.resolve?, named?, h.byName]

theorem names (h : Agrees r r') : r.names = r'.names := by
  simp only [Registry.names, h.byName]

/-- Candidates are listed only for types that nothing is registered for, which no enumeration is. -/
theorem candidates (h : Agrees r r') {t : ValueType} (ht : r.knows t = false) : r.candidates t = r'.candidates t := by
  have hlookup : r.byType.lookup t = r'.byType.lookup t := by
    cases t with
    | enumeration e => simp [Registry.knows, ValueType.isEnumeration] at ht
    | builtin b => exact h.choices (.builtin b)
    | record name properties => exact h.choices (.record name properties)
  simp only [Registry.candidates, hlookup]

end Agrees

end Registry

/-- The result does not depend on what was looked up before, and neither do later ones. -/
def Steady {ε α : Type} (x : ExceptT ε Lookup α) : Prop :=
  ∀ ⦃r r' : Registry⦄, r.Agrees r' → (run x r).1 = (run x r').1 ∧ r.Agrees (run x r).2

namespace Steady

variable {ε α β : Type} {x : ExceptT ε Lookup α} {f : α → ExceptT ε Lookup β}

theorem pure (a : α) : Steady (Pure.pure a : ExceptT ε Lookup α) := fun r _ _ => ⟨rfl, .refl r⟩

theorem throw (e : ε) : Steady (throw e : ExceptT ε Lookup α) := fun r _ _ => ⟨rfl, .refl r⟩

theorem ofExcept (x : Except ε α) : Steady (MonadExcept.ofExcept x : ExceptT ε Lookup α) := by
  intro r r' _
  rw [run_ofExcept, run_ofExcept]
  exact ⟨rfl, .refl r⟩

theorem bind (hx : Steady x) (hf : ∀ a, Steady (f a)) : Steady (x >>= f) := by
  intro r r' h
  obtain ⟨hresult, hagrees⟩ := hx h
  obtain ⟨-, hagrees'⟩ := hx h.symm
  rw [run_bind, run_bind]
  rcases hr : run x r with ⟨_ | a, t⟩ <;> rcases hr' : run x r' with ⟨_ | a', t'⟩ <;> rw [hr, hr'] at hresult <;>
    rw [hr] at hagrees <;> rw [hr'] at hagrees' <;> cases hresult
  · exact ⟨rfl, hagrees⟩
  · obtain ⟨hnext, hagrees''⟩ := hf a ((hagrees.symm.trans h).trans hagrees')
    exact ⟨hnext, hagrees.trans hagrees''⟩

/-- A computation that reads the registry may depend on it only in ways that agreeing registries have in common. -/
theorem get {f : Registry → ExceptT ε Lookup β} (hf : ∀ r, Steady (f r))
    (hsame : ∀ r r', r.Agrees r' → ∀ s, (run (f r) s).1 = (run (f r') s).1) : Steady (MonadStateOf.get >>= f) := by
  intro r r' h
  change (run (f r) r).1 = (run (f r') r').1 ∧ r.Agrees (run (f r) r).2
  obtain ⟨hresult, hagrees⟩ := hf r h
  exact ⟨hresult.trans (hsame r r' h r'), hagrees⟩

theorem converter? (t : ValueType) (s : Option SqlType) :
    Steady (liftM (Lookup.converter? t s) : ExceptT ε Lookup (Option Converter)) := by
  intro r r' h
  change Except.ok ((r.touch t).find? t s) = Except.ok ((r'.touch t).find? t s) ∧ r.Agrees (r.touch t)
  rw [Registry.find?_touch, Registry.find?_touch, h.choices]
  exact ⟨rfl, .touch r t⟩

theorem has (t : ValueType) : Steady (liftM (Lookup.has t) : ExceptT ε Lookup Bool) := by
  intro r r' h
  change Except.ok ((r.touch t).find? t none).isSome = Except.ok ((r'.touch t).find? t none).isSome ∧ r.Agrees (r.touch t)
  rw [Registry.find?_touch, Registry.find?_touch, h.choices]
  exact ⟨rfl, .touch r t⟩

end Steady

end SqlTemplate
