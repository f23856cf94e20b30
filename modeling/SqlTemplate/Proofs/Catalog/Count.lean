import Mathlib.Data.Set.Card
import SqlTemplate.Proofs.Catalog.Duplicates

/-! # The number of statements added

A call counts the elements that it registers. The catalog has fewer statements of the mapper where an element takes the place of one
before it: a variant for the configured database that of one for none, or a statement that of another under the id of its key.
-/

namespace SqlTemplate

open SqlTemplate.Computation

namespace Catalog

variable {c d : Catalog} {nameSpace id : String} {before elements : List Element} {e : Element} {n : Nat}

/-! ## One element -/

/-- What an element does to a catalog, and what it counts for. -/
inductive Adds (c : Catalog) (nameSpace : String) (e : Element) : Nat → Catalog → Prop
  | skipped (hstatement : isStatement e = false) : Adds c nameSpace e 0 c
  | foreign (hsuits : suits c.engine.databaseId e = false) : Adds c nameSpace e 0 c
  | kept {id : String} {s : Statement} (hid : idOf nameSpace e = some id) (hneutral : databaseOf e = none)
    (hs : Dict.get? c.statements id = some s) (hspecific : s.databaseId ≠ none) : Adds c nameSpace e 0 c
  | registered {id : String} (kind : StatementKind) {parts : ValueType × Option Element} (hstatement : isStatement e = true)
    (hid : idOf nameSpace e = some id) (hsuits : suits c.engine.databaseId e = true)
    (hreplaced : ∀ s, Dict.get? c.statements id = some s → s.databaseId = none ∧ isSpecific c.engine.databaseId e = true)
    (hkey : ∀ key ∈ parts.2, key.name = "selectKey") : Adds c nameSpace e 1 (c.registered id nameSpace kind e parts)

theorem exists_idOf_of_placeOf {place : Option String} (h : c.placeOf nameSpace e = .ok place) : ∃ id, idOf nameSpace e = some id := by
  obtain ⟨name, hname, -⟩ := except_bind_ok.1 h
  refine exists_idOf nameSpace ?_
  cases hattribute : e.attribute? "id" with
  | some value => rfl
  | none =>
    rw [Element.required, hattribute] at hname
    cases hname

theorem placeOf_some (h : c.placeOf nameSpace e = .ok (some id)) : idOf nameSpace e = some id ∧ suits c.engine.databaseId e = true := by
  obtain ⟨own, hown⟩ := exists_idOf_of_placeOf h
  rw [placeOf_eq c hown, matchesDatabase_eq] at h
  split at h
  · rename_i hsuits
    split at h
    · cases h
      exact ⟨hown, hsuits⟩
    · cases h
      exact ⟨hown, hsuits⟩
    · cases h
    · cases h
  · cases h

theorem keep_iff {previous next : Option String} : Precedence.of previous next = .keep ↔ previous ≠ none ∧ next = none := by
  cases previous <;> cases next <;> simp [Precedence.of]

theorem placeOf_none (h : c.placeOf nameSpace e = .ok none) : Adds c nameSpace e 0 c := by
  obtain ⟨own, hown⟩ := exists_idOf_of_placeOf h
  rw [placeOf_eq c hown, matchesDatabase_eq] at h
  split at h
  · split at h
    · cases h
    · cases h
    · rename_i hkeep
      obtain ⟨s, hs, hprecedence⟩ := Option.map_eq_some_iff.1 hkeep
      obtain ⟨hspecific, hneutral⟩ := keep_iff.1 hprecedence
      exact .kept hown hneutral hs hspecific
    · cases h
  · rename_i hsuits
    exact .foreign (Bool.of_not_eq_true hsuits)

theorem partsOf_key {parts : ValueType × Option Element} (h : c.partsOf e = .ok parts) : ∀ key ∈ parts.2, key.name = "selectKey" := by
  obtain ⟨type, -, h⟩ := except_bind_ok.1 h
  obtain ⟨key, hkey, h⟩ := except_bind_ok.1 h
  cases h
  rcases chooseKey_meets c ((e.attribute? "id").getD "") [] e.children with ⟨-, hchosen⟩ | ⟨-, hchosen⟩
  · rw [mapError_ok] at hkey
    cases hkey.symm.trans hchosen
  · rw [mapError_ok] at hkey
    cases hkey.symm.trans hchosen
    intro chosen hmem
    simpa using (List.mem_filter.1 (mem_of_winner hmem)).2

theorem addElement_adds (h : run (addElement nameSpace e) c = (.ok n, d)) : Adds c nameSpace e n d := by
  unfold addElement at h
  split at h
  · rename_i kind hkind
    have hstatement : isStatement e = true := by rw [isStatement, hkind]; rfl
    rw [run_addStatement] at h
    split at h
    · cases h
    · rename_i hplace
      cases h
      exact placeOf_none hplace
    · rename_i id hplace
      split at h
      · rename_i parts hparts
        cases h
        obtain ⟨hid, hsuits⟩ := placeOf_some hplace
        refine .registered kind hstatement hid hsuits (fun s hs => ?_) (partsOf_key hparts)
        obtain ⟨hnone, hdatabase, hsome⟩ := placeOf_replaces hplace hs
        exact ⟨hnone, by rw [isSpecific, databaseOf, hdatabase, hsome]; simp⟩
      · cases h
  · rename_i hfault
    cases h
    exact .skipped (by rw [isStatement, hfault]; rfl)

theorem addStatements_concat_ok : run (addStatements nameSpace (before ++ [e])) c = (.ok n, d) ↔
    ∃ k added m, run (addStatements nameSpace before) c = (.ok k, m) ∧ run (addElement nameSpace e) m = (.ok added, d) ∧
      n = k + added := by
  induction before generalizing c n with
  | nil =>
    rw [List.nil_append, addStatements_cons_ok]
    constructor
    · rintro ⟨added, more, m, hfirst, hmore, rfl⟩
      cases hmore
      exact ⟨0, added, c, rfl, hfirst, Nat.add_comm _ _⟩
    · rintro ⟨k, added, m, hnone, hlast, rfl⟩
      cases hnone
      exact ⟨added, 0, d, hlast, rfl, Nat.add_comm _ _⟩
  | cons first before ih =>
    simp only [List.cons_append, addStatements_cons_ok, ih]
    constructor
    · rintro ⟨added, more, m, hfirst, ⟨k, last, m', hbefore, hlast, rfl⟩, rfl⟩
      exact ⟨added + k, last, m', ⟨added, k, m, hfirst, hbefore, rfl⟩, hlast, (Nat.add_assoc _ _ _).symm⟩
    · rintro ⟨_, last, m', ⟨added, k, m, hfirst, hbefore, rfl⟩, hlast, rfl⟩
      exact ⟨added, k + last, m, hfirst, ⟨k, last, m', hbefore, hlast, rfl⟩, Nat.add_assoc _ _ _⟩

/-! ## The statements of the mapper -/

/-- The statement under the id is that of one of the elements that are for the configured database or for none. -/
def HasOf (c : Catalog) (nameSpace : String) (elements : List Element) (id : String) : Prop :=
  ∃ e ∈ elements, isStatement e = true ∧ suits c.engine.databaseId e = true ∧ idOf nameSpace e = some id ∧
    ∃ kind type key, Dict.get? c.statements id = some (statementOf id nameSpace kind type key e)

/-- The ids whose statements are those of the elements. -/
def idsOf (c : Catalog) (nameSpace : String) (elements : List Element) : Set String := {id | c.HasOf nameSpace elements id}

theorem mem_idsOf : id ∈ c.idsOf nameSpace elements ↔ c.HasOf nameSpace elements id := Iff.rfl

theorem idsOf_finite (c : Catalog) (nameSpace : String) (elements : List Element) : (c.idsOf nameSpace elements).Finite := by
  refine (List.finite_toSet (elements.filterMap (idOf nameSpace))).subset ?_
  rintro id ⟨e, he, -, -, hid, -⟩
  exact List.mem_filterMap.2 ⟨e, he, hid⟩

theorem idsOf_nil (c : Catalog) (nameSpace : String) : c.idsOf nameSpace [] = ∅ := by
  ext id
  simp [mem_idsOf, HasOf]

theorem hasOf_concat : c.HasOf nameSpace (before ++ [e]) id ↔ c.HasOf nameSpace before id ∨
    (isStatement e = true ∧ suits c.engine.databaseId e = true ∧ idOf nameSpace e = some id ∧
      ∃ kind type key, Dict.get? c.statements id = some (statementOf id nameSpace kind type key e)) := by
  simp [HasOf, or_and_right, exists_or]

/-- An element that does not count is not registered. -/
theorem Adds.idsOf_same (h : Adds c nameSpace e 0 d) (before : List Element) :
    d = c ∧ c.idsOf nameSpace (before ++ [e]) = c.idsOf nameSpace before := by
  have hsame (hnot : ∀ id, isStatement e = true → suits c.engine.databaseId e = true → idOf nameSpace e = some id →
      ∀ s, Dict.get? c.statements id = some s → s.databaseId ≠ databaseOf e) :
      c.idsOf nameSpace (before ++ [e]) = c.idsOf nameSpace before := by
    ext id
    refine hasOf_concat.trans (or_iff_left ?_)
    rintro ⟨hstatement, hsuits, hid, kind, type, key, hs⟩
    exact hnot id hstatement hsuits hid _ hs rfl
  cases h with
  | skipped hstatement => exact ⟨rfl, hsame fun _ h => by simp [hstatement] at h⟩
  | foreign hsuits => exact ⟨rfl, hsame fun _ _ h => by simp [hsuits] at h⟩
  | kept hid hneutral hs hspecific =>
    refine ⟨rfl, hsame fun id' _ _ hid' s' hs' => ?_⟩
    rw [hid] at hid'
    cases hid'
    rw [hs] at hs'
    cases hs'
    rwa [hneutral]

/-- An element that counts is registered, and the key under its id is removed. -/
theorem Adds.idsOf_insert (h : Adds c nameSpace e 1 d) (before : List Element) :
    ∃ id, idOf nameSpace e = some id ∧
      d.idsOf nameSpace (before ++ [e]) = insert id (c.idsOf nameSpace before \ {id ++ selectKeySuffix}) := by
  obtain _ | _ | _ | @⟨id, kind, parts, hstatement, hid, hsuits, hreplaced, hkey⟩ := h
  refine ⟨id, hid, ?_⟩
  have hget := get?_registered (c := c) id nameSpace kind e parts
  have hengine := (registered_engine (c := c) id nameSpace kind e parts).1
  ext other
  rw [Set.mem_insert_iff, Set.mem_sdiff, Set.mem_singleton_iff]
  refine hasOf_concat.trans ?_
  by_cases hother : other = id
  · subst hother
    refine iff_of_true (.inr ⟨hstatement, hengine ▸ hsuits, hid, ?_⟩) (.inl rfl)
    exact ⟨kind, parts.1, parts.2, by rw [hget, if_pos rfl]⟩
  rw [or_iff_left (by rintro ⟨-, -, hid', -⟩; exact hother (Option.some.inj (hid'.symm.trans hid))), or_iff_right hother]
  by_cases hsuffix : other = id ++ selectKeySuffix
  · refine iff_of_false ?_ fun h => h.2 hsuffix
    rintro ⟨v, -, hv, -, -, kind', type, key, hs⟩
    rw [hget, if_neg hother, if_pos hsuffix] at hs
    obtain ⟨k, hk, heq⟩ := Option.map_eq_some_iff.1 hs
    have hname : k.name = v.name := congrArg (fun s => s.body.name) heq
    rw [isStatement, ← hname, hkey k hk] at hv
    cases hv
  · rw [mem_idsOf, HasOf, HasOf, hengine, hget, if_neg hother, if_neg hsuffix]
    exact (and_iff_left hsuffix).symm

theorem Adds.count (h : Adds c nameSpace e n d) : n = 0 ∨ n = 1 := by
  cases h with
  | skipped => exact .inl rfl
  | foreign => exact .inl rfl
  | kept => exact .inl rfl
  | registered => exact .inr rfl

/-! ## All elements -/

/-- After the elements before it the element is registered in place of the statement of one of them, or it removes such a statement that
is under the id of its key. -/
def Displaces (c : Catalog) (nameSpace : String) (before : List Element) (e : Element) : Prop :=
  ∃ id k m d, run (addStatements nameSpace before) c = (.ok k, m) ∧ run (addElement nameSpace e) m = (.ok 1, d) ∧
    idOf nameSpace e = some id ∧ (m.HasOf nameSpace before id ∨ m.HasOf nameSpace before (id ++ selectKeySuffix))

theorem ncard_insert_free {ids : Set String} {key : String} (hfinite : ids.Finite) (hid : id ∉ ids) (hkey : key ∉ ids) :
    (insert id (ids \ {key})).ncard = ids.ncard + 1 := by
  rw [Set.sdiff_singleton_eq_self hkey, Set.ncard_insert_of_notMem hid hfinite]

theorem ncard_insert_taken {ids : Set String} {key : String} (hfinite : ids.Finite) (h : id ∈ ids ∨ key ∈ ids) :
    (insert id (ids \ {key})).ncard ≤ ids.ncard := by
  rcases h with hid | hkey
  · exact Set.ncard_le_ncard (Set.insert_subset hid Set.sdiff_subset) hfinite
  · calc (insert id (ids \ {key})).ncard ≤ (ids \ {key}).ncard + 1 := Set.ncard_insert_le _ _
      _ = ids.ncard := Set.ncard_sdiff_singleton_add_one hkey hfinite

/-- The count is that of the statements unless one of them is displaced. -/
theorem addStatements_count (h : run (addStatements nameSpace elements) c = (.ok n, d)) :
    (d.idsOf nameSpace elements).ncard ≤ n ∧
      (n = (d.idsOf nameSpace elements).ncard ↔ ¬ Meets (c.Displaces nameSpace) elements) := by
  induction elements using List.reverseRecOn generalizing n d with
  | nil =>
    cases h
    rw [idsOf_nil, Set.ncard_empty]
    exact ⟨le_rfl, iff_of_true rfl meets_nil⟩
  | append_singleton before e ih =>
    obtain ⟨k, added, m, hbefore, he, rfl⟩ := addStatements_concat_ok.1 h
    obtain ⟨hle, hiff⟩ := ih hbefore
    rw [meets_concat, not_or, ← hiff]
    have hadds := addElement_adds he
    rcases hadds.count with rfl | rfl
    · obtain ⟨rfl, hsame⟩ := hadds.idsOf_same before
      rw [hsame]
      refine ⟨hle, (and_iff_left ?_).symm⟩
      rintro ⟨id, k', m', d', hbefore', he', -, -⟩
      rw [hbefore] at hbefore'
      cases hbefore'
      rw [he] at he'
      cases he'
    · obtain ⟨id, hid, hinsert⟩ := hadds.idsOf_insert before
      have hfinite := idsOf_finite m nameSpace before
      -- The run up to the element is the same in every instance of the relation, so that it is decided by this one id.
      have hdisplaces : c.Displaces nameSpace before e ↔
          id ∈ m.idsOf nameSpace before ∨ id ++ selectKeySuffix ∈ m.idsOf nameSpace before := by
        constructor
        · rintro ⟨id', k', m', d', hbefore', -, hid', h⟩
          rw [hbefore] at hbefore'
          cases hbefore'
          rw [hid] at hid'
          cases hid'
          exact h
        · exact fun h => ⟨id, k, m, d, hbefore, he, hid, h⟩
      rw [hinsert]
      by_cases hfree : c.Displaces nameSpace before e
      · -- The count grows by one, but one of the ids was there before or a key is gone.
        have htaken := ncard_insert_taken hfinite (hdisplaces.1 hfree)
        exact ⟨by omega, iff_of_false (by omega) fun h => h.2 hfree⟩
      · obtain ⟨hown, hkey⟩ := not_or.1 (hdisplaces.not.1 hfree)
        rw [ncard_insert_free hfinite hown hkey, and_iff_left hfree]
        exact ⟨by omega, by omega⟩

/-! ## Ids that are none of keys -/

/-- No statement has the id of a key. -/
def KeyFree (nameSpace : String) (elements : List Element) : Prop :=
  ∀ e ∈ elements, isStatement e = true → ∀ id, idOf nameSpace e = some id → ¬ IsKeyId id

/-- A statement for the configured database stands after one for none in particular that has the id, too. -/
def Outranked (configured : Option String) (nameSpace : String) (elements : List Element) (id : String) : Prop :=
  Meets (fun before w => (isStatement w = true ∧ idOf nameSpace w = some id ∧ isSpecific configured w = true) ∧
    ∃ v ∈ before, isStatement v = true ∧ idOf nameSpace v = some id ∧ isNeutral v = true) elements

/-- The ids that were free and under which one statement takes the place of another. -/
def outrankedIds (c : Catalog) (nameSpace : String) (elements : List Element) : Set String :=
  {id | Dict.get? c.statements id = none ∧ Outranked c.engine.databaseId nameSpace elements id}

/-- What the elements so far have made of the statements, those of keys apart. -/
structure Reached (c : Catalog) (nameSpace : String) (before : List Element) (m : Catalog) : Prop where
  engine : m.engine = c.engine
  kept : ∀ id, ¬ IsKeyId id → ¬ m.HasOf nameSpace before id → Dict.get? m.statements id = Dict.get? c.statements id
  replaced : ∀ id s, Dict.get? c.statements id ≠ none → m.HasOf nameSpace before id → Dict.get? m.statements id = some s →
    s.databaseId ≠ none
  neutral : ∀ v ∈ before, ∀ id, isStatement v = true → idOf nameSpace v = some id → isNeutral v = true →
    Dict.get? m.statements id ≠ none
  specific : ∀ v ∈ before, ∀ id, isStatement v = true → idOf nameSpace v = some id → isSpecific c.engine.databaseId v = true →
    ∃ s, Dict.get? m.statements id = some s ∧ s.databaseId ≠ none

theorem mem_outrankedIds : id ∈ c.outrankedIds nameSpace elements ↔
    Dict.get? c.statements id = none ∧ Outranked c.engine.databaseId nameSpace elements id := Iff.rfl

theorem outrankedIds_finite (c : Catalog) (nameSpace : String) (elements : List Element) :
    (c.outrankedIds nameSpace elements).Finite := by
  refine (List.finite_toSet (elements.filterMap (idOf nameSpace))).subset ?_
  rintro id ⟨-, before, w, rest, rfl, ⟨-, hid, -⟩, -⟩
  exact List.mem_filterMap.2 ⟨w, by simp, hid⟩

theorem databaseOf_of_isSpecific {configured : Option String} (h : isSpecific configured e = true) : databaseOf e ≠ none := by
  rw [isSpecific, Bool.and_eq_true] at h
  exact Option.isSome_iff_ne_none.1 h.1

/-- An element that does not count is not for the configured database. -/
theorem Adds.not_specific (h : Adds c nameSpace e 0 d) (hstatement : isStatement e = true) : isSpecific c.engine.databaseId e = false := by
  cases h with
  | skipped h => rw [hstatement] at h; cases h
  | foreign hsuits =>
    rw [suits, Bool.or_eq_false_iff] at hsuits
    exact hsuits.2
  | kept hid hneutral => exact Bool.of_not_eq_true fun h => databaseOf_of_isSpecific h hneutral

theorem Reached.pass (h : Reached c nameSpace before d) (hadds : Adds d nameSpace e 0 d) : Reached c nameSpace (before ++ [e]) d := by
  have hsame (id : String) : d.HasOf nameSpace (before ++ [e]) id ↔ d.HasOf nameSpace before id :=
    Set.ext_iff.1 (hadds.idsOf_same before).2 id
  constructor
  case engine => exact h.engine
  case kept => exact fun id hfree hnot => h.kept id hfree fun hhas => hnot ((hsame id).2 hhas)
  case replaced => exact fun id s hprevious hhas => h.replaced id s hprevious ((hsame id).1 hhas)
  case neutral =>
    intro v hv id hstatement hid hneutral
    rcases List.mem_append.1 hv with hv | hv
    · exact h.neutral v hv id hstatement hid hneutral
    obtain rfl := List.mem_singleton.1 hv
    cases hadds with
    | skipped h => rw [hstatement] at h; cases h
    | foreign hsuits => simp [suits, hneutral] at hsuits
    | kept hid' _ hs _ =>
      rw [hid] at hid'
      cases hid'
      simp [hs]
  case specific =>
    intro v hv id hstatement hid hspecific
    rcases List.mem_append.1 hv with hv | hv
    · exact h.specific v hv id hstatement hid hspecific
    obtain rfl := List.mem_singleton.1 hv
    rw [← h.engine, hadds.not_specific hstatement] at hspecific
    cases hspecific

theorem get?_of_hasOf (h : c.HasOf nameSpace elements id) : ∃ s, Dict.get? c.statements id = some s := by
  obtain ⟨_, -, -, -, -, _, _, _, hs⟩ := h
  exact ⟨_, hs⟩

/-- An id that had a statement still has one. -/
theorem Reached.occupied {m : Catalog} (h : Reached c nameSpace before m) (hkey : ¬ IsKeyId id)
    (hprevious : Dict.get? c.statements id ≠ none) : ∃ s, Dict.get? m.statements id = some s := by
  by_cases hhas : m.HasOf nameSpace before id
  · exact get?_of_hasOf hhas
  · rw [h.kept id hkey hhas]
    exact Option.ne_none_iff_exists'.1 hprevious

/-- What an element that counts was registered in place of, and what it left. -/
theorem Adds.get? (h : Adds c nameSpace e 1 d) (hid : idOf nameSpace e = some id) :
    d.engine = c.engine ∧
      (∀ s, Dict.get? c.statements id = some s → s.databaseId = none ∧ isSpecific c.engine.databaseId e = true) ∧
      (∃ s, Dict.get? d.statements id = some s ∧ s.databaseId = databaseOf e) ∧
      ∀ other, other ≠ id → ¬ IsKeyId other → Dict.get? d.statements other = Dict.get? c.statements other := by
  obtain _ | _ | _ | @⟨own, kind, parts, -, hown, -, hreplaced, -⟩ := h
  rw [hid] at hown
  cases hown
  refine ⟨(registered_engine id nameSpace kind e parts).1, hreplaced,
    ⟨statementOf id nameSpace kind parts.1 parts.2 e, ?_, rfl⟩, fun other hother hfree => ?_⟩
  · rw [get?_registered, if_pos rfl]
  · rw [get?_registered, if_neg hother, if_neg fun hkey => hfree ⟨id, hkey⟩]

theorem Reached.take {m : Catalog} (h : Reached c nameSpace before m) (hadds : Adds m nameSpace e 1 d)
    (hstatement : isStatement e = true) (hfree : KeyFree nameSpace (before ++ [e])) : Reached c nameSpace (before ++ [e]) d := by
  obtain ⟨id, hid, hinsert⟩ := hadds.idsOf_insert before
  obtain ⟨hengine, hreplaced, ⟨s, hs, hdatabase⟩, hother⟩ := hadds.get? hid
  -- The key of the new statement leaves the set as well, but ids of keys are left out here.
  have hhas (other : String) (hkey : ¬ IsKeyId other) :
      d.HasOf nameSpace (before ++ [e]) other ↔ other = id ∨ m.HasOf nameSpace before other := by
    have hmem := Set.ext_iff.1 hinsert other
    rw [Set.mem_insert_iff, Set.mem_sdiff, Set.mem_singleton_iff, and_iff_left fun heq => hkey ⟨id, heq⟩] at hmem
    exact hmem
  have hfreeOf {v : Element} (hv : v ∈ before ++ [e]) {other : String} (hstatement : isStatement v = true)
      (hvid : idOf nameSpace v = some other) : ¬ IsKeyId other := hfree v hv hstatement other hvid
  constructor
  case engine => exact hengine.trans h.engine
  case kept =>
    intro other hkey hnot
    rw [hhas other hkey, not_or] at hnot
    rw [hother other hnot.1 hkey, h.kept other hkey hnot.2]
  case replaced =>
    intro other s' hprevious hhas' hs'
    have hkey : ¬ IsKeyId other := by
      obtain ⟨v, hv, hvstatement, -, hvid, -⟩ := hhas'
      exact hfreeOf hv hvstatement hvid
    by_cases heq : other = id
    · subst heq
      rw [hs] at hs'
      cases hs'
      -- Something was registered under the id already, and only what is for the configured database takes its place.
      obtain ⟨previous, hprevious⟩ := h.occupied hkey hprevious
      rw [hdatabase]
      exact databaseOf_of_isSpecific (hreplaced previous hprevious).2
    · rw [hother other heq hkey] at hs'
      exact h.replaced other s' hprevious (((hhas other hkey).1 hhas').resolve_left heq) hs'
  case neutral =>
    intro v hv other hvstatement hvid hneutral
    by_cases heq : other = id
    · simp [heq, hs]
    rw [hother other heq (hfreeOf hv hvstatement hvid)]
    rcases List.mem_append.1 hv with hv | hv
    · exact h.neutral v hv other hvstatement hvid hneutral
    · obtain rfl := List.mem_singleton.1 hv
      exact absurd (Option.some.inj (hvid.symm.trans hid)) heq
  case specific =>
    intro v hv other hvstatement hvid hspecific
    have hkey := hfreeOf hv hvstatement hvid
    rcases List.mem_append.1 hv with hv | hv
    · obtain ⟨previous, hprevious, hsome⟩ := h.specific v hv other hvstatement hvid hspecific
      have heq : other ≠ id := by
        rintro rfl
        -- What has been replaced was for no database in particular, unlike what a specific element leaves.
        exact hsome (hreplaced previous hprevious).1
      rw [hother other heq hkey]
      exact ⟨previous, hprevious, hsome⟩
    · obtain rfl := List.mem_singleton.1 hv
      obtain rfl := Option.some.inj (hvid.symm.trans hid)
      exact ⟨s, hs, hdatabase ▸ databaseOf_of_isSpecific hspecific⟩

theorem KeyFree.left {rest : List Element} (h : KeyFree nameSpace (before ++ rest)) : KeyFree nameSpace before :=
  fun e he => h e (List.mem_append_left _ he)

theorem Adds.isStatement (h : Adds c nameSpace e 1 d) : isStatement e = true := by
  obtain _ | _ | _ | @⟨_, _, _, hstatement, -, -, -, -⟩ := h
  exact hstatement

theorem outrankedIds_concat : id ∈ c.outrankedIds nameSpace (before ++ [e]) ↔
    id ∈ c.outrankedIds nameSpace before ∨
      (Dict.get? c.statements id = none ∧ (Catalog.isStatement e = true ∧ idOf nameSpace e = some id ∧
        isSpecific c.engine.databaseId e = true) ∧
        ∃ v ∈ before, Catalog.isStatement v = true ∧ idOf nameSpace v = some id ∧ isNeutral v = true) := by
  rw [mem_outrankedIds, mem_outrankedIds, Outranked, Outranked, meets_concat, and_or_left]

theorem Reached.refl (c : Catalog) (nameSpace : String) : Reached c nameSpace [] c where
  engine := rfl
  kept _ _ _ := rfl
  replaced := by
    rintro id s - ⟨v, hv, -⟩
    cases hv
  neutral _ hv := by cases hv
  specific _ hv := by cases hv

/-- An element that counts adds a statement or outranks one. -/
theorem Reached.count {m : Catalog} (h : Reached c nameSpace before m) (hadds : Adds m nameSpace e 1 d)
    (hfree : KeyFree nameSpace (before ++ [e])) :
    (d.idsOf nameSpace (before ++ [e])).ncard + (c.outrankedIds nameSpace (before ++ [e])).ncard =
      (m.idsOf nameSpace before).ncard + 1 + (c.outrankedIds nameSpace before).ncard := by
  obtain ⟨id, hid, hinsert⟩ := hadds.idsOf_insert before
  obtain ⟨-, hreplaced, -, -⟩ := hadds.get? hid
  have hkey : id ++ selectKeySuffix ∉ m.idsOf nameSpace before := by
    rintro ⟨v, hv, hstatement, -, hvid, -⟩
    exact hfree.left v hv hstatement _ hvid ⟨id, rfl⟩
  rw [hinsert]
  -- Either the id is there already, and then it is outranked only now, or it is new, and then nothing is outranked.
  by_cases hhas : m.HasOf nameSpace before id
  · have ⟨v, hv, hvstatement, _, hvid, kind, type, key, hs⟩ := hhas
    obtain ⟨hnone, hspecific⟩ := hreplaced _ hs
    have hvacant : Dict.get? c.statements id = none := by
      by_contra hprevious
      exact h.replaced id _ hprevious hhas hs hnone
    have hown : c.outrankedIds nameSpace (before ++ [e]) = insert id (c.outrankedIds nameSpace before) := by
      ext other
      rw [outrankedIds_concat, Set.mem_insert_iff, or_comm]
      refine or_congr_left ⟨fun hother => Option.some.inj (hother.2.1.2.1.symm.trans hid), ?_⟩
      rintro rfl
      rw [h.engine] at hspecific
      exact ⟨hvacant, ⟨hadds.isStatement, hid, hspecific⟩, v, hv, hvstatement, hvid, Option.isNone_iff_eq_none.2 hnone⟩
    have hnew : id ∉ c.outrankedIds nameSpace before := by
      -- Had it been outranked before, what is registered would be for a database already.
      rintro ⟨-, first, w, rest, rfl, ⟨hwstatement, hwid, hwspecific⟩, -⟩
      obtain ⟨previous, hprevious, hsome⟩ := h.specific w (by simp) id hwstatement hwid hwspecific
      rw [hs] at hprevious
      cases hprevious
      exact hsome hnone
    rw [Set.sdiff_singleton_eq_self hkey, Set.insert_eq_of_mem (mem_idsOf.2 hhas), hown,
      Set.ncard_insert_of_notMem hnew (outrankedIds_finite c nameSpace before)]
    omega
  · have hsame : c.outrankedIds nameSpace (before ++ [e]) = c.outrankedIds nameSpace before := by
      ext other
      refine outrankedIds_concat.trans (or_iff_left ?_)
      rintro ⟨hvacant, ⟨-, hother, -⟩, v, hv, hvstatement, hvid, hneutral⟩
      obtain rfl := Option.some.inj (hid.symm.trans hother)
      refine h.neutral v hv id hvstatement hvid hneutral ?_
      rw [h.kept id (hfree.left v hv hvstatement id hvid) hhas, hvacant]
    rw [ncard_insert_free (idsOf_finite m nameSpace before) hhas hkey, hsame]

/-- Where no id is that of a key, the count is that of the statements and of the ids that are outranked. -/
theorem addStatements_reached (hfree : KeyFree nameSpace elements) (h : run (addStatements nameSpace elements) c = (.ok n, d)) :
    Reached c nameSpace elements d ∧
      n = (d.idsOf nameSpace elements).ncard + (c.outrankedIds nameSpace elements).ncard := by
  induction elements using List.reverseRecOn generalizing n d with
  | nil =>
    cases h
    have hnone : c.outrankedIds nameSpace [] = ∅ := Set.eq_empty_of_forall_notMem fun id hid => meets_nil hid.2
    rw [idsOf_nil, hnone, Set.ncard_empty]
    exact ⟨.refl c nameSpace, rfl⟩
  | append_singleton before e ih =>
    obtain ⟨k, added, m, hbefore, he, rfl⟩ := addStatements_concat_ok.1 h
    obtain ⟨hreached, hcount⟩ := ih hfree.left hbefore
    have hadds := addElement_adds he
    rcases hadds.count with rfl | rfl
    · obtain ⟨rfl, hsame⟩ := hadds.idsOf_same before
      have houtranked : c.outrankedIds nameSpace (before ++ [e]) = c.outrankedIds nameSpace before := by
        ext id
        refine outrankedIds_concat.trans (or_iff_left ?_)
        rintro ⟨-, ⟨hstatement, -, hspecific⟩, -⟩
        rw [← hreached.engine, hadds.not_specific hstatement] at hspecific
        cases hspecific
      exact ⟨hreached.pass hadds, by rw [hsame, houtranked]; exact hcount⟩
    · have hstep := hreached.count hadds hfree
      exact ⟨hreached.take hadds hadds.isStatement hfree, by omega⟩

/-! ## A mapper -/

/-- The count of a call is at least that of the statements that the catalog has of the mapper, and it is theirs unless an element
displaces the statement of one before it. Where no id is that of a key it is too high by the ids that were free before the call and have a
variant for the configured database after one for none. -/
theorem addMapper_count {text : String} {root : Element} (hread : readMapper text = .ok (nameSpace, root))
    (h : run (addMapper text) c = (.ok n, d)) :
    (d.idsOf nameSpace root.elements).ncard ≤ n ∧
      (n = (d.idsOf nameSpace root.elements).ncard ↔
        ¬ Meets ((run (addFragments nameSpace root.elements) c).2.Displaces nameSpace) root.elements) ∧
      (KeyFree nameSpace root.elements →
        n = (d.idsOf nameSpace root.elements).ncard + (c.outrankedIds nameSpace root.elements).ncard) := by
  obtain ⟨nameSpace', root', all, hread', hfragments, hstatements⟩ := addMapper_ok h
  cases hread.symm.trans hread'
  obtain ⟨hle, hiff⟩ := addStatements_count hstatements
  refine ⟨hle, by rwa [hfragments], fun hfree => ?_⟩
  have hsame := addFragments_statements nameSpace root.elements c
  have hengine := (addFragments_loads nameSpace root.elements c).later.engine
  rw [hfragments] at hsame hengine
  have houtranked : c.outrankedIds nameSpace root.elements = all.outrankedIds nameSpace root.elements := by
    ext id
    rw [mem_outrankedIds, mem_outrankedIds, hengine, show c.statements = all.statements from hsame]
  rw [houtranked]
  exact (addStatements_reached hfree hstatements).2

/-- A variant for the configured database, one for none after it, and another statement. -/
theorem addMapper_count_specific_first :
    ∃ (c d : Catalog) (text : String) (root : Element),
      Catalog.ofConfig { Config.initial with databaseId := some "pg" } = .ok c ∧
      text = "<mapper namespace=\"a\"><select id=\"x\" databaseId=\"pg\">1</select><select id=\"x\">2</select><select id=\"y\">3</select></mapper>" ∧
      readMapper text = .ok ("a", root) ∧ run (addMapper text) c = (.ok 2, d) ∧ KeyFree "a" root.elements ∧
      (d.idsOf "a" root.elements).ncard ≤ 2 ∧
      2 = (d.idsOf "a" root.elements).ncard + (c.outrankedIds "a" root.elements).ncard := by
  let specific : Element := ⟨"select", [("id", "x"), ("databaseId", "pg")], [.text "1"]⟩
  let neutral : Element := ⟨"select", [("id", "x")], [.text "2"]⟩
  let second : Element := ⟨"select", [("id", "y")], [.text "3"]⟩
  let root : Element := ⟨"mapper", [("namespace", "a")], [specific.toContent, neutral.toContent, second.toContent]⟩
  let text := "<mapper namespace=\"a\"><select id=\"x\" databaseId=\"pg\">1</select><select id=\"x\">2</select><select id=\"y\">3</select></mapper>"
  have hread : readMapper text = .ok ("a", root) := toOption_eq_some.1 (by decide +kernel)
  have hfree : KeyFree "a" root.elements := by
    have hids : ∀ e ∈ root.elements, ∃ id ∈ ["a.x", "a.y"], idOf "a" e = some id ∧ ¬ IsKeyId id := by decide
    intro e he _ id hid
    obtain ⟨own, -, hown, hnot⟩ := hids e he
    cases hown.symm.trans hid
    exact hnot
  obtain ⟨c, hc, hcount⟩ : ∃ c, Catalog.ofConfig { Config.initial with databaseId := some "pg" } = .ok c ∧
      (run (addMapper text) c).1 = .ok 2 := ⟨_, ofConfig_without_types rfl rfl, toOption_eq_some.1 (by decide +kernel)⟩
  rcases hrun : run (addMapper text) c with ⟨result, d⟩
  rw [hrun] at hcount
  cases hcount
  obtain ⟨hle, -, hexact⟩ := addMapper_count hread hrun
  exact ⟨c, d, text, root, hc, rfl, hread, hrun, hfree, hle, hexact hfree⟩

/-- A variant for the configured database that follows one for none is counted with it. The other way round one is counted. -/
theorem neutral_first_counted_twice :
    ∃ (c d : Catalog) (text other : String) (root : Element),
      Catalog.ofConfig { Config.initial with databaseId := some "pg" } = .ok c ∧
      text = "<mapper namespace=\"a\"><select id=\"x\">1</select><select id=\"x\" databaseId=\"pg\">2</select></mapper>" ∧
      other = "<mapper namespace=\"a\"><select id=\"x\" databaseId=\"pg\">2</select><select id=\"x\">1</select></mapper>" ∧
      readMapper text = .ok ("a", root) ∧ run (addMapper text) c = (.ok 2, d) ∧ (d.idsOf "a" root.elements).ncard = 1 ∧
      (run (addMapper other) c).1 = .ok 1 := by
  let neutral : Element := ⟨"select", [("id", "x")], [.text "1"]⟩
  let specific : Element := ⟨"select", [("id", "x"), ("databaseId", "pg")], [.text "2"]⟩
  let root : Element := ⟨"mapper", [("namespace", "a")], [neutral.toContent, specific.toContent]⟩
  let text := "<mapper namespace=\"a\"><select id=\"x\">1</select><select id=\"x\" databaseId=\"pg\">2</select></mapper>"
  let other := "<mapper namespace=\"a\"><select id=\"x\" databaseId=\"pg\">2</select><select id=\"x\">1</select></mapper>"
  have hread : readMapper text = .ok ("a", root) := toOption_eq_some.1 (by decide +kernel)
  obtain ⟨c, hc, hcount, hother⟩ : ∃ c, Catalog.ofConfig { Config.initial with databaseId := some "pg" } = .ok c ∧
      (run (addMapper text) c).1 = .ok 2 ∧ (run (addMapper other) c).1 = .ok 1 :=
    ⟨_, ofConfig_without_types rfl rfl, toOption_eq_some.1 (by decide +kernel), toOption_eq_some.1 (by decide +kernel)⟩
  rcases hrun : run (addMapper text) c with ⟨result, d⟩
  rw [hrun] at hcount
  cases hcount
  refine ⟨c, d, text, other, root, hc, rfl, rfl, hread, hrun, ?_, hother⟩
  obtain ⟨nameSpace, root', all, hread', -, hstatements⟩ := addMapper_ok hrun
  cases hread.symm.trans hread'
  have hids : ∀ e ∈ root.elements, idOf "a" e = some "a.x" := by decide
  -- The count of one element is at most one, so that the last one was registered.
  have hsplit : run (addStatements "a" ([neutral] ++ [specific])) all = (.ok 2, d) := hstatements
  obtain ⟨k, added, m, hfirst, hlast, hcount⟩ := addStatements_concat_ok.1 hsplit
  obtain ⟨first, none, m', hneutral, hnone, hk⟩ := addStatements_cons_ok.1 hfirst
  cases hnone
  have hadds := addElement_adds hlast
  obtain rfl : added = 1 := by
    have hone := (addElement_adds hneutral).count
    have hone' := hadds.count
    omega
  obtain ⟨id, hid, hinsert⟩ := hadds.idsOf_insert [neutral]
  have hmem : id ∈ d.idsOf "a" root.elements := (Set.ext_iff.1 hinsert id).2 (Set.mem_insert _ _)
  have hone : d.idsOf "a" root.elements = {id} := by
    refine Set.eq_singleton_iff_unique_mem.2 ⟨hmem, fun other hother => ?_⟩
    obtain ⟨e, he, -, -, hother, -⟩ := hother
    have hspecific := hids specific (show specific ∈ [neutral, specific] by simp)
    exact Option.some.inj ((hother.symm.trans (hids e he)).trans (hspecific.symm.trans hid))
  rw [hone, Set.ncard_singleton]

end Catalog

end SqlTemplate
