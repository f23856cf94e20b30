import Mathlib.Logic.Basic
import Mathlib.Order.Defs.Unbundled

/-! # Computations with state and errors

Rendering, extraction and loading all keep a state that survives an error. A computation is read here as the function from
a state to a result and the state afterwards that it is.
-/

namespace SqlTemplate.Computation

variable {ε σ α β : Type}

/-- The result of a computation and the state it leaves. -/
def run (x : ExceptT ε (StateM σ) α) (s : σ) : Except ε α × σ := x s

theorem ok_inj {a b : α} {s t : σ} : ((.ok a, s) : Except ε α × σ) = (.ok b, t) ↔ a = b ∧ s = t := by
  rw [Prod.mk.injEq, Except.ok.injEq]

theorem except_bind_ok {x : Except ε α} {f : α → Except ε β} {b : β} :
    x >>= f = .ok b ↔ ∃ a, x = .ok a ∧ f a = .ok b := by
  cases x <;> simp [bind, Except.bind]

theorem except_bind_error {x : Except ε α} {f : α → Except ε β} {e : ε} :
    x >>= f = .error e ↔ x = .error e ∨ ∃ a, x = .ok a ∧ f a = .error e := by
  cases x <;> simp [bind, Except.bind]

theorem except_ok_bind (a : α) (f : α → Except ε β) : (.ok a : Except ε α) >>= f = f a := rfl

theorem except_error_bind (e : ε) (f : α → Except ε β) : (.error e : Except ε α) >>= f = .error e := rfl

theorem except_map_ok {x : Except ε α} {f : α → β} {b : β} : x.map f = .ok b ↔ ∃ a, x = .ok a ∧ f a = b := by
  cases x <;> simp [Except.map]

theorem run_bind (x : ExceptT ε (StateM σ) α) (f : α → ExceptT ε (StateM σ) β) (s : σ) :
    run (x >>= f) s =
      match run x s with
      | (.ok a, t) => run (f a) t
      | (.error e, t) => (.error e, t) := by
  rcases h : run x s with ⟨_ | a, t⟩
  all_goals
    simp only [run, bind, ExceptT.bind, ExceptT.mk, StateT.bind] at h ⊢
    rw [h]
    rfl

theorem bind_ok {x : ExceptT ε (StateM σ) α} {f : α → ExceptT ε (StateM σ) β} {s u : σ} {b : β} :
    run (x >>= f) s = (.ok b, u) ↔ ∃ a t, run x s = (.ok a, t) ∧ run (f a) t = (.ok b, u) := by
  rw [run_bind]
  rcases run x s with ⟨_ | a, t⟩ <;> simp [and_assoc]

theorem bind_error {x : ExceptT ε (StateM σ) α} {f : α → ExceptT ε (StateM σ) β} {s u : σ} {e : ε} :
    run (x >>= f) s = (.error e, u) ↔
      run x s = (.error e, u) ∨ ∃ a t, run x s = (.ok a, t) ∧ run (f a) t = (.error e, u) := by
  rw [run_bind]
  rcases run x s with ⟨_ | a, t⟩ <;> simp [and_assoc]

@[simp]
theorem run_pure (a : α) (s : σ) : run (pure a : ExceptT ε (StateM σ) α) s = (.ok a, s) := rfl

/-- A computation after which only its value changes. -/
theorem bind_pure_ok {x : ExceptT ε (StateM σ) α} {f : α → β} {s u : σ} {b : β} :
    run (x >>= fun a => pure (f a)) s = (.ok b, u) ↔ ∃ a, run x s = (.ok a, u) ∧ b = f a := by
  rw [bind_ok]
  constructor
  · rintro ⟨a, t, h, hp⟩
    simp only [run_pure, Prod.mk.injEq, Except.ok.injEq] at hp
    obtain ⟨rfl, rfl⟩ := hp
    exact ⟨a, h, rfl⟩
  · rintro ⟨a, h, rfl⟩
    exact ⟨a, u, h, rfl⟩

@[simp]
theorem run_throw (e : ε) (s : σ) : run (throw e : ExceptT ε (StateM σ) α) s = (.error e, s) := rfl

@[simp]
theorem run_get (s : σ) : run (get : ExceptT ε (StateM σ) σ) s = (.ok s, s) := rfl

@[simp]
theorem run_modify (f : σ → σ) (s : σ) : run (modify f : ExceptT ε (StateM σ) PUnit) s = (.ok ⟨⟩, f s) := rfl

@[simp]
theorem run_ofExcept (x : Except ε α) (s : σ) :
    run (MonadExcept.ofExcept x : ExceptT ε (StateM σ) α) s = (x, s) := by
  cases x <;> rfl

section MapError

variable {ε' : Type} (f : ε → ε')

@[simp]
theorem mapError_of_ok (a : α) : (.ok a : Except ε α).mapError f = .ok a := rfl

@[simp]
theorem mapError_of_error (e : ε) : (.error e : Except ε α).mapError f = .error (f e) := rfl

theorem mapError_ok {f : ε → ε'} {x : Except ε α} {a : α} : x.mapError f = .ok a ↔ x = .ok a := by
  cases x <;> simp

end MapError

theorem ofExcept_ok {x : Except ε α} {a : α} {s t : σ} :
    run (MonadExcept.ofExcept x : ExceptT ε (StateM σ) α) s = (.ok a, t) ↔ x = .ok a ∧ t = s := by
  rw [run_ofExcept, Prod.mk.injEq, eq_comm (b := t)]

theorem toOption_eq_some {x : Except ε α} {a : α} : x.toOption = some a ↔ x = .ok a := by
  cases x <;> simp [Except.toOption]

/-- A run whose result is known, its state being whatever it is. -/
theorem run_of_toOption {x : ExceptT ε (StateM σ) α} {s : σ} {a : α} (h : (run x s).1.toOption = some a) :
    run x s = (.ok a, (run x s).2) := by
  rcases hr : run x s with ⟨_ | b, t⟩
  · simp [hr, Except.toOption] at h
  · simpa [hr, Except.toOption] using h

/-- A run that has no result has an error. -/
theorem run_of_toOption_none {x : ExceptT ε (StateM σ) α} {s : σ} (h : (run x s).1.toOption = none) :
    ∃ e, run x s = (.error e, (run x s).2) := by
  rcases hr : run x s with ⟨e | b, t⟩
  · exact ⟨e, rfl⟩
  · simp [hr, Except.toOption] at h

theorem state_bind (x : StateM σ α) (f : α → StateM σ β) (s : σ) : (x >>= f) s = f (x s).1 (x s).2 := rfl

/-! ## What a computation does to the state

A relation between the states before and after, and one between two states that are computed on side by side. Errors count too,
since what was done before them stays.
-/

def Moves (R : σ → σ → Prop) (x : ExceptT ε (StateM σ) α) : Prop := ∀ s, R s (run x s).2

namespace Moves

variable {R : σ → σ → Prop} [IsPreorder σ R] {x : ExceptT ε (StateM σ) α} {f : α → ExceptT ε (StateM σ) β}

theorem pure (a : α) : Moves R (Pure.pure a : ExceptT ε (StateM σ) α) := fun s => Std.Refl.refl s

theorem throw (e : ε) : Moves R (throw e : ExceptT ε (StateM σ) α) := fun s => Std.Refl.refl s

theorem ofExcept (x : Except ε α) : Moves R (MonadExcept.ofExcept x : ExceptT ε (StateM σ) α) := by
  intro s
  rw [run_ofExcept]
  exact Std.Refl.refl s

theorem get : Moves R (MonadStateOf.get : ExceptT ε (StateM σ) σ) := fun s => Std.Refl.refl s

theorem bind (hx : Moves R x) (hf : ∀ a, Moves R (f a)) : Moves R (x >>= f) := by
  intro s
  have hs := hx s
  rw [run_bind]
  rcases hr : run x s with ⟨_ | a, t⟩ <;> rw [hr] at hs
  · exact hs
  · exact IsTrans.trans _ _ _ hs (hf a t)

end Moves

/-- Every error that the computation ends with has the property. -/
def FailsWith (P : ε → Prop) (x : ExceptT ε (StateM σ) α) : Prop := ∀ s e, (run x s).1 = .error e → P e

namespace FailsWith

variable {P : ε → Prop} {x : ExceptT ε (StateM σ) α} {f : α → ExceptT ε (StateM σ) β}

theorem pure (a : α) : FailsWith P (Pure.pure a : ExceptT ε (StateM σ) α) := fun _ _ h => by cases h

theorem throw {e : ε} (h : P e) : FailsWith P (throw e : ExceptT ε (StateM σ) α) := fun _ _ he => by
  cases he
  exact h

theorem ofExcept {x : Except ε α} (h : ∀ e, x = .error e → P e) : FailsWith P (MonadExcept.ofExcept x : ExceptT ε (StateM σ) α) := by
  intro s e he
  rw [run_ofExcept] at he
  exact h e he

theorem get : FailsWith P (MonadStateOf.get : ExceptT ε (StateM σ) σ) := fun _ _ h => by cases h

theorem modify (g : σ → σ) : FailsWith P (modify g : ExceptT ε (StateM σ) PUnit) := fun _ _ h => by cases h

theorem bind (hx : FailsWith P x) (hf : ∀ a, FailsWith P (f a)) : FailsWith P (x >>= f) := by
  intro s e he
  rw [run_bind] at he
  rcases hr : run x s with ⟨e' | a, t⟩ <;> rw [hr] at he
  · cases he
    exact hx s e (by rw [hr])
  · exact hf a t e he

end FailsWith

def Respects (R : σ → σ → Prop) (x : ExceptT ε (StateM σ) α) : Prop :=
  ∀ ⦃s t⦄, R s t → (run x s).1 = (run x t).1 ∧ R (run x s).2 (run x t).2

namespace Respects

variable {R : σ → σ → Prop} {x : ExceptT ε (StateM σ) α} {f : α → ExceptT ε (StateM σ) β}

theorem pure (a : α) : Respects R (Pure.pure a : ExceptT ε (StateM σ) α) := fun _ _ h => ⟨rfl, h⟩

theorem throw (e : ε) : Respects R (throw e : ExceptT ε (StateM σ) α) := fun _ _ h => ⟨rfl, h⟩

theorem ofExcept (x : Except ε α) : Respects R (MonadExcept.ofExcept x : ExceptT ε (StateM σ) α) := by
  intro s t h
  rw [run_ofExcept, run_ofExcept]
  exact ⟨rfl, h⟩

theorem bind (hx : Respects R x) (hf : ∀ a, Respects R (f a)) : Respects R (x >>= f) := by
  intro s t h
  obtain ⟨hresult, hstate⟩ := hx h
  rw [run_bind, run_bind]
  rcases hs : run x s with ⟨_ | a, u⟩ <;> rcases ht : run x t with ⟨_ | a', v⟩ <;> rw [hs, ht] at hresult hstate <;>
    cases hresult
  · exact ⟨rfl, hstate⟩
  · exact hf a hstate

theorem get {f : σ → ExceptT ε (StateM σ) β}
    (hf : ∀ ⦃s t⦄, R s t → (run (f s) s).1 = (run (f t) t).1 ∧ R (run (f s) s).2 (run (f t) t).2) :
    Respects R (MonadStateOf.get >>= f) := fun _ _ h => hf h

/-- A computation that reads of the state only what related states have in common. -/
theorem get_eq {f : σ → ExceptT ε (StateM σ) β} (hf : ∀ s, Respects R (f s)) (heq : ∀ ⦃s t⦄, R s t → f s = f t) :
    Respects R (MonadStateOf.get >>= f) :=
  .get fun s _ h => heq h ▸ hf s h

theorem modify {g : σ → σ} (hg : ∀ ⦃s t⦄, R s t → R (g s) (g t)) :
    Respects R (modify g : ExceptT ε (StateM σ) PUnit) := fun _ _ h => ⟨rfl, hg h⟩

end Respects

end SqlTemplate.Computation
