import SqlTemplate.Proofs.Rendering.Success

/-! # The turns of a loop

A loop takes one turn for each entry of its collection. A turn begins with its entry bound, and what it writes is kept apart.
-/

namespace SqlTemplate

open SqlTemplate.Computation

/-- One time round a loop. -/
structure Turn where
  key : Value
  value : Value
  /-- The number in the aliases of the turn. -/
  number : Nat
  /-- Where the body begins, with nothing written yet. -/
  start : Context
  /-- What the body wrote. -/
  text : String

namespace Loop

variable {l : Loop} {body : Render Bool} {c d : Context}

/-- The entries that the loop goes over, if its collection has any meaning there. -/
def entriesAt (l : Loop) (c : Context) : Option (List (Value × Value)) :=
  match l.collection.eval c.bindings with
  | .ok .null | .error (.unresolved _) => some []
  | .ok v => entries? v
  | .error (.fault _) => none

def bound (n : Nat) (v : Value) (c : Context) : Option String → Context
  | some name => (c.bind (aliasName name n) v).bind name v
  | none => c

/-- The context in which the body meets an entry. -/
def enter (l : Loop) (key value : Value) (c : Context) : Context :=
  bound c.counter value (bound c.counter key { c with counter := c.counter + 1 } l.index) l.item

/-- The context after the last turn, with the names of the loop as they were before the first. -/
def leave (l : Loop) (before after : Context) : Context :=
  l.names.foldl (fun d name => d.restore name (Dict.get? before.bindings name)) after

/-- The text of a turn as the loop writes it. -/
def finished (l : Loop) (n : Nat) (text : String) : String := Text.trimString (renamePlaceholders l.names n text)

/-- The texts of the loop from a turn on, given those after it. A turn that wrote nothing leaves none. -/
def keep (l : Loop) (n : Nat) (text : String) (rest : List String) : List String :=
  if (l.finished n text).isEmpty then rest else l.finished n text :: rest

/-- The turns of a loop over the entries, up to the first that fails. -/
def turns (l : Loop) (body : Render Bool) : List (Value × Value) → Context → List Turn
  | [], _ => []
  | (key, value) :: entries, c =>
    let start := { l.enter key value c with fragments := [] }
    match run body start with
    | (.ok _, inner) =>
      ⟨key, value, c.counter, start, " ".intercalate inner.fragments⟩ ::
        l.turns body entries { inner with fragments := c.fragments }
    | (.error _, _) => []

theorem run_bindEntry (n : Nat) (v : Value) (name : Option String) (c : Context) :
    run (bindEntry n v name) c = (.ok ⟨⟩, bound n v c name) := by
  cases name <;> rfl

@[simp]
theorem bound_fragments (n : Nat) (v : Value) (c : Context) (name : Option String) :
    (bound n v c name).fragments = c.fragments := by
  cases name <;> rfl

@[simp]
theorem bound_counter (n : Nat) (v : Value) (c : Context) (name : Option String) :
    (bound n v c name).counter = c.counter := by
  cases name <;> rfl

@[simp]
theorem enter_fragments (key value : Value) (c : Context) : (l.enter key value c).fragments = c.fragments := by
  simp [enter]

@[simp]
theorem enter_counter (key value : Value) (c : Context) : (l.enter key value c).counter = c.counter + 1 := by
  simp [enter]

@[simp]
theorem leave_fragments (before after : Context) : (l.leave before after).fragments = after.fragments := by
  unfold leave
  induction l.names generalizing after with
  | nil => rfl
  | cons name names ih =>
    rw [List.foldl_cons, ih]
    cases Dict.get? before.bindings name <;> rfl

@[simp]
theorem leave_counter (before after : Context) : (l.leave before after).counter = after.counter := by
  unfold leave
  induction l.names generalizing after with
  | nil => rfl
  | cons name names ih =>
    rw [List.foldl_cons, ih]
    cases Dict.get? before.bindings name <;> rfl

theorem get?_leave (l : Loop) (before after : Context) (k : String) :
    Dict.get? (l.leave before after).bindings k =
      if k ∈ l.names then Dict.get? before.bindings k else Dict.get? after.bindings k := by
  have hrestore (d : Context) (name : String) (v : Option Value) :
      Dict.get? (d.restore name v).bindings k = if k = name then v else Dict.get? d.bindings k := by
    cases v with
    | none => exact Dict.get?_erase name k d.bindings
    | some v => exact Dict.get?_insert name k v d.bindings
  unfold leave
  induction l.names generalizing after with
  | nil => rfl
  | cons name names ih =>
    rw [List.foldl_cons, ih, hrestore]
    -- A name that occurs again is restored again, to the same value.
    by_cases hmem : k ∈ names
    · rw [if_pos hmem, if_pos (List.mem_cons_of_mem _ hmem)]
    · by_cases hk : k = name
      · rw [if_neg hmem, if_pos hk, if_pos (hk ▸ List.mem_cons_self), hk]
      · rw [if_neg hmem, if_neg hk, if_neg (by simp [hk, hmem])]

theorem iterate_nil_ok {bodies : List String} :
    run (l.iterate body []) c = (.ok bodies, d) ↔ bodies = [] ∧ d = c := by
  simp [iterate, eq_comm]

theorem turns_cons_ok {key value : Value} {entries : List (Value × Value)} {a : Bool} {inner : Context}
    (h : run body { l.enter key value c with fragments := [] } = (.ok a, inner)) :
    l.turns body ((key, value) :: entries) c =
      ⟨key, value, c.counter, { l.enter key value c with fragments := [] }, " ".intercalate inner.fragments⟩ ::
        l.turns body entries { inner with fragments := c.fragments } := by
  rw [turns, h]

theorem start_fragments {entries : List (Value × Value)} : ∀ t ∈ l.turns body entries c, t.start.fragments = [] := by
  fun_induction turns l body entries c with
  | case1 => simp
  | case2 c key value entries start _ inner hrun ih => exact List.forall_mem_cons.2 ⟨rfl, ih⟩
  | case3 => simp

theorem iterate_cons_ok {key value : Value} {entries : List (Value × Value)} {bodies : List String} :
    run (l.iterate body ((key, value) :: entries)) c = (.ok bodies, d) ↔
      ∃ a inner rest, run body { l.enter key value c with fragments := [] } = (.ok a, inner) ∧
        run (l.iterate body entries) { inner with fragments := c.fragments } = (.ok rest, d) ∧
        bodies = l.keep c.counter (" ".intercalate inner.fragments) rest := by
  rw [iterate]
  constructor
  · intro h
    obtain ⟨n, _, hnext, h⟩ := bind_ok.1 h
    rw [Render.run_next] at hnext
    obtain ⟨rfl, rfl⟩ := ok_inj.1 hnext
    obtain ⟨_, _, hindex, h⟩ := bind_ok.1 h
    rw [run_bindEntry] at hindex
    obtain ⟨-, rfl⟩ := ok_inj.1 hindex
    obtain ⟨_, _, hitem, h⟩ := bind_ok.1 h
    rw [run_bindEntry] at hitem
    obtain ⟨-, rfl⟩ := ok_inj.1 hitem
    obtain ⟨text, after, htext, h⟩ := bind_ok.1 h
    obtain ⟨rest, hrest, hbodies⟩ := bind_pure_ok.1 h
    obtain ⟨a, inner, hbody, rfl, rfl⟩ := Render.capture_ok.1 htext
    exact ⟨a, inner, rest, hbody, by simpa using hrest, hbodies⟩
  · rintro ⟨a, inner, rest, hbody, hrest, hbodies⟩
    refine bind_ok.2 ⟨_, _, Render.run_next c, bind_ok.2 ⟨_, _, run_bindEntry .., bind_ok.2 ⟨_, _, run_bindEntry .., ?_⟩⟩⟩
    have htext := Render.capture_ok.2 ⟨a, inner, hbody, rfl, rfl⟩
    exact bind_ok.2 ⟨_, _, htext, bind_pure_ok.2 ⟨rest, by simpa using hrest, hbodies⟩⟩

theorem renderEntries_ok {entries : List (Value × Value)} {b : Bool}
    (h : run (l.renderEntries body entries) c = (.ok b, d)) :
    ∃ bodies after, run (l.iterate body entries) c = (.ok bodies, after) ∧ b = !bodies.isEmpty ∧
      d = if bodies.isEmpty then l.leave c after else (l.leave c after).append (l.join bodies) := by
  obtain ⟨bodies, _, hkeep, h⟩ := bind_ok.1 h
  obtain ⟨after, hiter, rfl⟩ := Render.keeping_ok.1 hkeep
  refine ⟨bodies, after, hiter, ?_⟩
  cases hb : bodies.isEmpty with
  | true =>
    rw [if_pos hb] at h
    cases h
    exact ⟨rfl, rfl⟩
  | false =>
    rw [if_neg (by simp [hb])] at h
    obtain ⟨_, happ, rfl⟩ := bind_pure_ok.1 h
    cases happ
    exact ⟨rfl, rfl⟩

/-- A loop over nothing does nothing. Any other takes its turns and writes at most one fragment. -/
theorem render_ok {b : Bool} (h : run (l.render body) c = (.ok b, d)) :
    ∃ entries, l.entriesAt c = some entries ∧
      ((entries = [] ∧ b = false ∧ d = c) ∨
        entries ≠ [] ∧ ∃ bodies after, run (l.iterate body entries) c = (.ok bodies, after) ∧ b = !bodies.isEmpty ∧
          d = if bodies.isEmpty then l.leave c after else (l.leave c after).append (l.join bodies)) := by
  obtain ⟨v, _, hv, h⟩ := bind_ok.1 h
  obtain ⟨rfl, ⟨v, hval, rfl⟩ | ⟨u, hval, rfl⟩⟩ := Render.eval?_ok.1 hv
  · -- The value may be null, no collection at all, empty or filled.
    unfold entriesAt
    rw [hval]
    split at h
    · cases h
      simp_all
    · cases h
      exact ⟨[], by simp_all⟩
    · rename_i w hne hw
      cases hw
      split at h
      · cases h
      · cases h
        exact ⟨[], by simp_all⟩
      · rename_i entries hnil hentries
        refine ⟨entries, ?_, .inr ⟨hnil, renderEntries_ok h⟩⟩
        cases v <;> simp_all
  · cases h
    exact ⟨[], by simp [entriesAt, hval], .inl ⟨rfl, rfl, rfl⟩⟩

end Loop

end SqlTemplate
