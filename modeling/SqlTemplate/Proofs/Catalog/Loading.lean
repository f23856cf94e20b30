import SqlTemplate.Proofs.Catalog.Change

/-! # Loading, element by element

Everything that an element of a mapper can do to a catalog. A call stops at the first element that is rejected, and what the
elements before it registered stays.
-/

namespace SqlTemplate

open SqlTemplate.Computation

namespace Catalog

/-! ## One statement -/

/-- The id under which the statement of an element is to be registered. There is none if the element is for another database or
one before it has precedence. -/
def placeOf (c : Catalog) (nameSpace : String) (element : Element) : Except Error (Option String) := do
  let name ← (element.required "id").mapError Error.compile
  let id := qualify nameSpace name
  let databaseId := element.attribute? "databaseId"
  if c.matchesDatabase databaseId then
    match (Dict.get? c.statements id).map fun previous => Precedence.of previous.databaseId databaseId with
    | none | some .replace => .ok (some id)
    | some .keep => .ok none
    | some .duplicate => .error (.compile (.duplicateStatement id))
  else .ok none

/-- A statement takes the place of another only as a variant for the configured database of one for none. -/
theorem placeOf_replaces {c : Catalog} {nameSpace id : String} {element : Element} {previous : Statement}
    (h : c.placeOf nameSpace element = .ok (some id)) (hprevious : Dict.get? c.statements id = some previous) :
    previous.databaseId = none ∧ element.attribute? "databaseId" = c.engine.databaseId ∧ c.engine.databaseId.isSome := by
  obtain ⟨name, -, h⟩ := except_bind_ok.1 h
  dsimp only at h
  split at h
  · rename_i hmatches
    have hid : qualify nameSpace name = id := by
      split at h <;> simp_all
    rw [hid, hprevious, Option.map_some] at h
    cases hp : previous.databaseId <;> cases hn : element.attribute? "databaseId" <;> rw [hp, hn] at h
    · simp [Precedence.of] at h
    · rw [hn, matchesDatabase, beq_iff_eq] at hmatches
      exact ⟨rfl, hmatches.symm, by rw [hmatches]; rfl⟩
    · simp [Precedence.of] at h
    · simp [Precedence.of] at h
  · cases h

/-- The parameter type of a statement and the element of its key. -/
def partsOf (c : Catalog) (element : Element) : Except Error (ValueType × Option Element) := do
  let type ← parameterTypeOf c.engine element
  let key ← (c.chooseKey ((element.attribute? "id").getD "") none element.children).mapError Error.compile
  .ok (type, key)

/-- The statement of the key under its id, if there is one, and otherwise nothing under that id. -/
def rekeyed (c : Catalog) (id nameSpace : String) (type : ValueType) : Option Element → Catalog
  | some key => (c.remove (id ++ selectKeySuffix)).put (keyStatement id nameSpace type key)
  | none => c.remove (id ++ selectKeySuffix)

def registered (c : Catalog) (id nameSpace : String) (kind : StatementKind) (element : Element)
    (parts : ValueType × Option Element) : Catalog :=
  (c.rekeyed id nameSpace parts.1 parts.2).put (statementOf id nameSpace kind parts.1 parts.2 element)

/-- The old key is gone even if the parts of the new statement are not found. -/
theorem run_register (id nameSpace : String) (kind : StatementKind) (element : Element) (c : Catalog) :
    run (register id nameSpace kind element) c =
      match c.partsOf element with
      | .ok parts => (.ok (), c.registered id nameSpace kind element parts)
      | .error e => (.error e, c.remove (id ++ selectKeySuffix)) := by
  have hmatches : (c.remove (id ++ selectKeySuffix)).matchesDatabase = c.matchesDatabase := rfl
  have hengine : (c.remove (id ++ selectKeySuffix)).engine = c.engine := rfl
  unfold register partsOf
  rw [run_bind, run_modify]
  dsimp only
  rw [run_bind, run_get]
  dsimp only
  rw [run_bind, run_ofExcept, chooseKey_congr hmatches, hengine]
  cases parameterTypeOf c.engine element with
  | error e => rfl
  | ok type =>
    dsimp only
    rw [run_bind, run_ofExcept, except_ok_bind]
    cases (c.chooseKey ((element.attribute? "id").getD "") none element.children).mapError Error.compile with
    | error e => rfl
    | ok key => cases key <;> rfl

theorem run_addStatement (nameSpace : String) (kind : StatementKind) (element : Element) (c : Catalog) :
    run (addStatement nameSpace kind element) c =
      match c.placeOf nameSpace element with
      | .error e => (.error e, c)
      | .ok none => (.ok 0, c)
      | .ok (some id) =>
        match c.partsOf element with
        | .ok parts => (.ok 1, c.registered id nameSpace kind element parts)
        | .error e => (.error e, c.remove (id ++ selectKeySuffix)) := by
  unfold addStatement placeOf
  rw [run_bind, run_get]
  dsimp only
  rw [run_bind, run_ofExcept]
  cases (element.required "id").mapError Error.compile with
  | error e => rfl
  | ok name =>
    have hregister : run (register (qualify nameSpace name) nameSpace kind element >>= fun _ => pure 1) c =
        match c.partsOf element with
        | .ok parts => (.ok 1, c.registered (qualify nameSpace name) nameSpace kind element parts)
        | .error e => (.error e, c.remove (qualify nameSpace name ++ selectKeySuffix)) := by
      rw [run_bind, run_register]
      cases c.partsOf element <;> rfl
    rw [except_ok_bind]
    dsimp only
    generalize (Dict.get? c.statements (qualify nameSpace name)).map
      (fun previous => Precedence.of previous.databaseId (element.attribute? "databaseId")) = precedence
    cases c.matchesDatabase (element.attribute? "databaseId") with
    | false => rfl
    | true =>
      rcases precedence with _ | (_ | _ | _)
      · exact hregister
      · exact hregister
      · rfl
      · rfl

/-! ## The elements of a mapper -/

theorem addFragment_cases (nameSpace : String) (element : Element) (c : Catalog) :
    (run (addFragment nameSpace element) c).2 = c ∨
      ∃ id f, run (addFragment nameSpace element) c = (.ok (), { c with fragments := Dict.insert id f c.fragments }) := by
  unfold addFragment
  rw [run_bind, run_get]
  dsimp only
  rw [run_bind, run_ofExcept]
  cases (element.required "id").mapError Error.compile with
  | error e => exact .inl rfl
  | ok name =>
    dsimp only
    split
    · split
      · exact .inr ⟨_, _, rfl⟩
      · split
        · exact .inr ⟨_, _, rfl⟩
        · exact .inl rfl
        · exact .inl rfl
    · exact .inl rfl

theorem addFragment_error {nameSpace : String} {element : Element} {c d : Catalog} {e : Error}
    (h : run (addFragment nameSpace element) c = (.error e, d)) : d = c := by
  rcases addFragment_cases nameSpace element c with hsame | ⟨id, f, hadded⟩
  · rwa [h] at hsame
  · rw [h] at hadded
    cases hadded

def SameStatements (c d : Catalog) : Prop := c.statements = d.statements

instance : IsPreorder Catalog SameStatements where
  refl _ := rfl
  trans _ _ _ h h' := Eq.trans h h'

theorem addFragment_statements (nameSpace : String) (element : Element) : Moves SameStatements (addFragment nameSpace element) := by
  intro c
  rcases addFragment_cases nameSpace element c with hsame | ⟨id, f, hadded⟩
  · rw [hsame]
    exact Std.Refl.refl c
  · rw [hadded]
    rfl

theorem addFragments_statements (nameSpace : String) (elements : List Element) :
    Moves SameStatements (addFragments nameSpace elements) :=
  (moves_closed SameStatements).addFragments (addFragment_statements nameSpace) elements

/-- The fragments before the one that is rejected stay. -/
theorem addFragments_error {nameSpace : String} {elements : List Element} {c d : Catalog} {e : Error}
    (h : run (addFragments nameSpace elements) c = (.error e, d)) :
    ∃ before element rest, elements = before ++ element :: rest ∧ element.name = "sql" ∧
      run (addFragments nameSpace before) c = (.ok (), d) ∧ run (addFragment nameSpace element) d = (.error e, d) := by
  induction elements generalizing c with
  | nil => cases h
  | cons first elements ih =>
    rw [addFragments] at h
    by_cases hname : first.name = "sql"
    · rw [if_pos hname] at h
      rcases bind_error.1 h with hfirst | ⟨⟨⟩, m, hfirst, hrest⟩
      · obtain rfl := addFragment_error hfirst
        exact ⟨[], first, elements, rfl, hname, rfl, hfirst⟩
      · obtain ⟨before, element, rest, rfl, hsql, hbefore, herror⟩ := ih hrest
        refine ⟨first :: before, element, rest, rfl, hsql, ?_, herror⟩
        rw [addFragments, if_pos hname]
        exact bind_ok.2 ⟨(), m, hfirst, hbefore⟩
    · rw [if_neg hname] at h
      obtain ⟨before, element, rest, rfl, hsql, hbefore, herror⟩ := ih h
      refine ⟨first :: before, element, rest, rfl, hsql, ?_, herror⟩
      rw [addFragments, if_neg hname]
      exact hbefore

def addElement (nameSpace : String) (element : Element) : Change Nat :=
  match StatementKind.read element.name with
  | .ok kind => addStatement nameSpace kind element
  | .error _ => pure 0

theorem addElement_ok {nameSpace : String} {element : Element} {c d : Catalog} {n : Nat}
    (h : run (addElement nameSpace element) c = (.ok n, d)) :
    d = c ∨ ∃ id kind parts, c.placeOf nameSpace element = .ok (some id) ∧ c.partsOf element = .ok parts ∧
      d = c.registered id nameSpace kind element parts := by
  unfold addElement at h
  split at h
  · rename_i kind _
    rw [run_addStatement] at h
    split at h
    · cases h
    · cases h
      exact .inl rfl
    · rename_i id hplace
      split at h
      · rename_i parts hparts
        cases h
        exact .inr ⟨id, kind, parts, hplace, hparts, rfl⟩
      · cases h
  · cases h
    exact .inl rfl

/-- A statement that is rejected for its parts has removed the key of the one that it was to replace. Otherwise it changes
nothing. -/
theorem addElement_error {nameSpace : String} {element : Element} {c d : Catalog} {e : Error}
    (h : run (addElement nameSpace element) c = (.error e, d)) :
    (c.placeOf nameSpace element = .error e ∧ d = c) ∨
      ∃ id, c.placeOf nameSpace element = .ok (some id) ∧ c.partsOf element = .error e ∧
        d = c.remove (id ++ selectKeySuffix) := by
  unfold addElement at h
  split at h
  · rw [run_addStatement] at h
    split at h
    · rename_i hplace
      cases h
      exact .inl ⟨hplace, rfl⟩
    · cases h
    · rename_i id hplace
      split at h
      · cases h
      · rename_i hparts
        cases h
        exact .inr ⟨id, hplace, hparts, rfl⟩
  · cases h

theorem addStatements_cons (nameSpace : String) (element : Element) (elements : List Element) :
    addStatements nameSpace (element :: elements) = (do
      let added ← addElement nameSpace element
      let more ← addStatements nameSpace elements
      pure (added + more)) := by
  rw [addStatements, addElement]
  cases StatementKind.read element.name <;> rfl

theorem addStatements_cons_ok {nameSpace : String} {element : Element} {elements : List Element} {c d : Catalog} {n : Nat} :
    run (addStatements nameSpace (element :: elements)) c = (.ok n, d) ↔
      ∃ added more m, run (addElement nameSpace element) c = (.ok added, m) ∧
        run (addStatements nameSpace elements) m = (.ok more, d) ∧ n = added + more := by
  rw [addStatements_cons, bind_ok]
  constructor
  · rintro ⟨added, m, helement, h⟩
    obtain ⟨more, hmore, rfl⟩ := bind_pure_ok.1 h
    exact ⟨added, more, m, helement, hmore, rfl⟩
  · rintro ⟨added, more, m, helement, hmore, rfl⟩
    exact ⟨added, m, helement, bind_pure_ok.2 ⟨more, hmore, rfl⟩⟩

/-- The statements before the one that is rejected stay. -/
theorem addStatements_error {nameSpace : String} {elements : List Element} {c d : Catalog} {e : Error}
    (h : run (addStatements nameSpace elements) c = (.error e, d)) :
    ∃ before element rest n m, elements = before ++ element :: rest ∧
      run (addStatements nameSpace before) c = (.ok n, m) ∧ run (addElement nameSpace element) m = (.error e, d) := by
  induction elements generalizing c with
  | nil => cases h
  | cons first elements ih =>
    rw [addStatements_cons] at h
    rcases bind_error.1 h with hfirst | ⟨added, m, hfirst, h⟩
    · exact ⟨[], first, elements, 0, c, rfl, rfl, hfirst⟩
    · rcases bind_error.1 h with hrest | ⟨_, _, -, hpure⟩
      · obtain ⟨before, element, rest, n, m', rfl, hbefore, herror⟩ := ih hrest
        exact ⟨first :: before, element, rest, added + n, m', rfl, addStatements_cons_ok.2 ⟨added, n, m, hfirst, hbefore, rfl⟩,
          herror⟩
      · cases hpure

/-! ## A call that is rejected -/

/-- A fragment among the elements is rejected, and the fragments before it leave `m`. -/
def StopsAtFragment (c : Catalog) (nameSpace : String) (elements : List Element) (e : Error) (m : Catalog) : Prop :=
  ∃ before element rest, elements = before ++ element :: rest ∧ element.name = "sql" ∧
    run (addFragments nameSpace before) c = (.ok (), m) ∧ (run (addFragment nameSpace element) m).1 = .error e

/-- The statement of an element is rejected, and all fragments and the statements before it leave `m`. -/
def StopsAtStatement (c : Catalog) (nameSpace : String) (elements : List Element) (element : Element) (e : Error)
    (m : Catalog) : Prop :=
  ∃ before rest all n, elements = before ++ element :: rest ∧ run (addFragments nameSpace elements) c = (.ok (), all) ∧
    run (addStatements nameSpace before) all = (.ok n, m) ∧ (run (addElement nameSpace element) m).1 = .error e

theorem StopsAtStatement.rejects {nameSpace : String} {elements : List Element} {element : Element} {c m : Catalog} {e : Error}
    (h : c.StopsAtStatement nameSpace elements element e m) : (run (addElement nameSpace element) m).1 = .error e := by
  obtain ⟨_, _, _, _, -, -, -, herror⟩ := h
  exact herror

theorem run_addMapper (text : String) (c : Catalog) :
    run (addMapper text) c =
      match readMapper text with
      | .ok (nameSpace, root) =>
        run (addFragments nameSpace root.elements >>= fun _ => addStatements nameSpace root.elements) c
      | .error e => (.error e, c) := by
  unfold addMapper
  rw [run_bind, run_ofExcept]
  cases readMapper text <;> rfl

theorem addStatements_append_error {nameSpace : String} {before rest : List Element} {element : Element} {c m d : Catalog}
    {n : Nat} {e : Error} (hbefore : run (addStatements nameSpace before) c = (.ok n, m))
    (herror : run (addElement nameSpace element) m = (.error e, d)) :
    run (addStatements nameSpace (before ++ element :: rest)) c = (.error e, d) := by
  induction before generalizing c n with
  | nil =>
    cases hbefore
    rw [List.nil_append, addStatements_cons]
    exact bind_error.2 (.inl herror)
  | cons first before ih =>
    obtain ⟨added, more, m', hfirst, hmore, -⟩ := addStatements_cons_ok.1 hbefore
    rw [List.cons_append, addStatements_cons]
    exact bind_error.2 (.inr ⟨added, m', hfirst, bind_error.2 (.inl (ih hmore))⟩)

theorem addMapper_ok {text : String} {c d : Catalog} {n : Nat} (h : run (addMapper text) c = (.ok n, d)) :
    ∃ nameSpace root all, readMapper text = .ok (nameSpace, root) ∧
      run (addFragments nameSpace root.elements) c = (.ok (), all) ∧
      run (addStatements nameSpace root.elements) all = (.ok n, d) := by
  rw [run_addMapper] at h
  split at h
  · rename_i nameSpace root hread
    obtain ⟨⟨⟩, all, hfragments, hstatements⟩ := bind_ok.1 h
    exact ⟨nameSpace, root, all, hread, hfragments, hstatements⟩
  · cases h

theorem addMapper_error {text : String} {c d : Catalog} {e : Error} (h : run (addMapper text) c = (.error e, d)) :
    (readMapper text = .error e ∧ d = c) ∨
      ∃ nameSpace root, readMapper text = .ok (nameSpace, root) ∧
        (c.StopsAtFragment nameSpace root.elements e d ∨
          ∃ element m, c.StopsAtStatement nameSpace root.elements element e m ∧
            run (addElement nameSpace element) m = (.error e, d)) := by
  rw [run_addMapper] at h
  split at h
  · rename_i nameSpace root hread
    refine .inr ⟨nameSpace, root, hread, ?_⟩
    rcases bind_error.1 h with hfragments | ⟨⟨⟩, all, hfragments, hstatements⟩
    · obtain ⟨before, element, rest, hsplit, hname, hbefore, herror⟩ := addFragments_error hfragments
      exact .inl ⟨before, element, rest, hsplit, hname, hbefore, congrArg Prod.fst herror⟩
    · obtain ⟨before, element, rest, n, m, hsplit, hbefore, herror⟩ := addStatements_error hstatements
      exact .inr ⟨element, m, ⟨before, rest, all, n, hsplit, hfragments, hbefore, congrArg Prod.fst herror⟩, herror⟩
  · rename_i hread
    cases h
    exact .inl ⟨hread, rfl⟩

/-- The call ends with the element that is rejected. -/
theorem StopsAtStatement.run_addMapper {text nameSpace : String} {root element : Element} {c m : Catalog} {e : Error}
    (h : c.StopsAtStatement nameSpace root.elements element e m) (hread : readMapper text = .ok (nameSpace, root)) :
    run (addMapper text) c = (.error e, (run (addElement nameSpace element) m).2) := by
  obtain ⟨before, rest, all, n, hsplit, hfragments, hbefore, herror⟩ := h
  rw [Catalog.run_addMapper, hread]
  refine bind_error.2 (.inr ⟨(), all, hfragments, ?_⟩)
  rw [hsplit]
  exact addStatements_append_error hbefore (Prod.ext herror rfl)

end Catalog

end SqlTemplate
