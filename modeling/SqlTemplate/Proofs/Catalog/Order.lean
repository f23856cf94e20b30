import SqlTemplate.Proofs.Catalog.Keys
import SqlTemplate.Proofs.Catalog.Variant

/-! # Loading in any order

What a catalog holds after loading mappers of one namespace is said id by id, by the variants that the mappers have. It does not matter
in which order they come or how they are spread over the mappers.
-/

namespace SqlTemplate

open SqlTemplate.Computation

namespace Catalog

variable {c : Catalog} {nameSpace id : String} {before elements : List Element} {e : Element}

/-! ## Variants by id -/

/-- The id under which an element is registered. -/
def idOf (nameSpace : String) (e : Element) : Option String := (e.attribute? "id").map (qualify nameSpace)

/-- The elements with the id. -/
def variants (nameSpace id : String) (elements : List Element) : List Element := elements.filter fun e => idOf nameSpace e = some id

/-- The id and the database that an element is for. -/
def variantKey (nameSpace : String) (e : Element) : Option String × Option String := (idOf nameSpace e, databaseOf e)

theorem variants_concat (nameSpace id : String) (before : List Element) (e : Element) :
    variants nameSpace id (before ++ [e]) =
      if idOf nameSpace e = some id then variants nameSpace id before ++ [e] else variants nameSpace id before := by
  rw [variants, List.filter_append, List.filter_singleton]
  split <;> simp_all [variants]

theorem databaseOf_new (hid : idOf nameSpace e = some id) (h : variantKey nameSpace e ∉ before.map (variantKey nameSpace)) :
    databaseOf e ∉ (variants nameSpace id before).map databaseOf := by
  intro hmem
  obtain ⟨v, hv, hdatabase⟩ := List.mem_map.1 hmem
  obtain ⟨hv, hvid⟩ := List.mem_filter.1 hv
  refine h (List.mem_map.2 ⟨v, hv, ?_⟩)
  rw [variantKey, variantKey, hdatabase, hid, of_decide_eq_true hvid]

theorem exists_idOf (nameSpace : String) (h : (e.attribute? "id").isSome) : ∃ id, idOf nameSpace e = some id := by
  obtain ⟨name, hname⟩ := Option.isSome_iff_exists.1 h
  exact ⟨_, by rw [idOf, hname]; rfl⟩

theorem mem_variantKeys (hid : idOf nameSpace e = some id) :
    variantKey nameSpace e ∈ before.map (variantKey nameSpace) ↔ databaseOf e ∈ (variants nameSpace id before).map databaseOf := by
  constructor
  · intro h
    by_contra hnew
    obtain ⟨v, hv, hkey⟩ := List.mem_map.1 h
    rw [variantKey, variantKey, Prod.mk.injEq] at hkey
    exact hnew (List.mem_map.2 ⟨v, List.mem_filter.2 ⟨hv, by simpa [hid] using hkey.1⟩, hkey.2⟩)
  · intro h
    by_contra hnew
    exact databaseOf_new hid hnew h

/-- The variant that is registered under the id. -/
def winnerOf (configured : Option String) (nameSpace id : String) (elements : List Element) : Option Element :=
  winner configured (variants nameSpace id elements)

theorem winnerOf_same {configured : Option String} (hid : idOf nameSpace e = some id)
    (h : winner configured (variants nameSpace id before ++ [e]) = winner configured (variants nameSpace id before)) (other : String) :
    winnerOf configured nameSpace other (before ++ [e]) = winnerOf configured nameSpace other before := by
  rw [winnerOf, variants_concat]
  split_ifs with hother
  · obtain rfl : id = other := by simpa [hid] using hother
    exact h
  · rfl

theorem winnerOf_take {configured : Option String} (hid : idOf nameSpace e = some id)
    (h : winner configured (variants nameSpace id before ++ [e]) = some e) (other : String) :
    winnerOf configured nameSpace other (before ++ [e]) =
      if other = id then some e else winnerOf configured nameSpace other before := by
  rw [winnerOf, variants_concat, hid]
  by_cases hother : other = id
  · rw [hother, if_pos rfl, if_pos rfl, h]
  · rw [if_neg (by simpa using Ne.symm hother), if_neg hother, winnerOf]

theorem winnerOf_perm (configured : Option String) {elements' : List Element} (hperm : elements.Perm elements')
    (hnodup : (elements.map (variantKey nameSpace)).Nodup) (id : String) :
    winnerOf configured nameSpace id elements = winnerOf configured nameSpace id elements' := by
  refine winner_perm (hperm.filter _) ?_
  have hkeys : (variants nameSpace id elements).map (variantKey nameSpace) =
      ((variants nameSpace id elements).map databaseOf).map fun database => (some id, database) := by
    rw [List.map_map]
    refine List.map_congr_left fun v hv => ?_
    rw [variantKey, of_decide_eq_true (List.mem_filter.1 hv).2]
    rfl
  refine List.Nodup.of_map (fun database => (some id, database)) ?_
  rw [← hkeys]
  exact (List.filter_sublist.map _).nodup hnodup

/-! ## Fragments -/

def isFragment (e : Element) : Bool := e.name = "sql"

def fragmentOf (nameSpace : String) (e : Element) : Fragment := ⟨nameSpace, databaseOf e, e⟩

theorem fragmentOf_databaseId (nameSpace : String) (e : Element) : (fragmentOf nameSpace e).databaseId = databaseOf e := rfl

/-- The fragments are those of the elements. -/
structure FragmentsOf (nameSpace : String) (elements : List Element) (c : Catalog) : Prop where
  sorted : Dict.Sorted c.fragments
  get : ∀ id, Dict.get? c.fragments id = (winnerOf c.engine.databaseId nameSpace id elements).map (fragmentOf nameSpace)

theorem run_addFragment (c : Catalog) (hid : idOf nameSpace e = some id) :
    run (addFragment nameSpace e) c =
      if c.matchesDatabase (databaseOf e) then
        match (Dict.get? c.fragments id).map fun previous => Precedence.of previous.databaseId (databaseOf e) with
        | none | some .replace => (.ok (), { c with fragments := Dict.insert id (fragmentOf nameSpace e) c.fragments })
        | some .keep => (.ok (), c)
        | some .duplicate => (.error (.compile (.duplicateStatement id)), c)
      else (.ok (), c) := by
  obtain ⟨name, hname, rfl⟩ := Option.map_eq_some_iff.1 hid
  have hrequired : (e.required "id").mapError Error.compile = .ok name := by
    rw [Element.required, hname]
    rfl
  unfold addFragment
  rw [run_bind, run_get]
  dsimp only
  rw [run_bind, run_ofExcept, hrequired]
  dsimp only
  have hdatabase : e.attribute? "databaseId" = databaseOf e := rfl
  rw [hdatabase]
  cases c.matchesDatabase (databaseOf e) with
  | false => rfl
  | true =>
    rw [if_pos rfl, if_pos rfl]
    cases hprevious : Dict.get? c.fragments (qualify nameSpace name) with
    | none => rfl
    | some previous =>
      rw [Option.map_some]
      dsimp only
      cases Precedence.of previous.databaseId (databaseOf e) <;> rfl

/-- The fragment is for the same database as one before it. -/
def FragmentRepeated (configured : Option String) (nameSpace : String) (before : List Element) (e : Element) : Prop :=
  ∃ id, idOf nameSpace e = some id ∧ Repeated configured (variants nameSpace id before) e

/-- One fragment more. It is repeated, or it has precedence, or it gives way to the one that is registered. -/
theorem addFragment_step (h : FragmentsOf nameSpace before c) (hid : idOf nameSpace e = some id) :
    (Repeated c.engine.databaseId (variants nameSpace id before) e ∧
        run (addFragment nameSpace e) c = (.error (.compile (.duplicateStatement id)), c)) ∨
      (¬ Repeated c.engine.databaseId (variants nameSpace id before) e ∧
        ∃ fragments, run (addFragment nameSpace e) c = (.ok (), { c with fragments }) ∧
          FragmentsOf nameSpace (before ++ [e]) { c with fragments }) := by
  have hrun := run_addFragment c hid
  rw [matchesDatabase_eq, h.get, winnerOf] at hrun
  rcases verdict c (variants nameSpace id before) e with ⟨hsuits, hafter⟩ | ⟨hsuits, hshadowed, hw, hprecedence, hafter⟩ |
    ⟨hrepeated, hw, hprecedence⟩ | ⟨hconsidered, hnew, hbefore, hafter⟩
  · refine .inr ⟨fun h => by simp [h.1.1] at hsuits, c.fragments, ?_, h.sorted, fun other => by rw [h.get, winnerOf_same hid hafter]⟩
    rw [hrun, if_neg (by rw [hsuits]; decide)]
  · refine .inr ⟨fun h => h.1.2 hshadowed, c.fragments, ?_, h.sorted, fun other => by rw [h.get, winnerOf_same hid hafter]⟩
    rw [hrun, if_pos hsuits]
    simp only [hw, Option.map_some, fragmentOf_databaseId, hprecedence]
  · refine .inl ⟨hrepeated, ?_⟩
    rw [hrun, if_pos hrepeated.1.1]
    simp only [hw, Option.map_some, fragmentOf_databaseId, hprecedence]
  · refine .inr ⟨fun h => hnew h.2, Dict.insert id (fragmentOf nameSpace e) c.fragments, ?_, h.sorted.insert _ _, fun other => ?_⟩
    · rw [hrun, if_pos hconsidered.1]
      cases hwinner : winner c.engine.databaseId (variants nameSpace id before) with
      | none => rfl
      | some w => simp only [Option.map_some, fragmentOf_databaseId, hbefore w hwinner]
    · rw [Dict.get?_insert, h.get, winnerOf_take hid hafter]
      split_ifs <;> rfl

theorem addFragments_meets {elements : List Element} (hnamed : ∀ e ∈ elements, isFragment e = true → (e.attribute? "id").isSome)
    {before : List Element} {c : Catalog} (h : FragmentsOf nameSpace before c) :
    (Meets (fun first => FragmentRepeated c.engine.databaseId nameSpace (before ++ first)) (elements.filter isFragment) ∧
        ∃ id d, run (addFragments nameSpace elements) c = (.error (.compile (.duplicateStatement id)), d)) ∨
      (¬ Meets (fun first => FragmentRepeated c.engine.databaseId nameSpace (before ++ first)) (elements.filter isFragment) ∧
        ∃ fragments, run (addFragments nameSpace elements) c = (.ok (), { c with fragments }) ∧
          FragmentsOf nameSpace (before ++ elements.filter isFragment) { c with fragments }) := by
  induction elements generalizing before c with
  | nil => exact .inr ⟨meets_nil, c.fragments, rfl, by rwa [List.filter_nil, List.append_nil]⟩
  | cons e elements ih =>
    rw [List.forall_mem_cons] at hnamed
    rw [addFragments]
    by_cases hfragment : e.name = "sql"
    · have hkind : isFragment e = true := by simpa [isFragment] using hfragment
      obtain ⟨id, hid⟩ := exists_idOf nameSpace (hnamed.1 hkind)
      rw [List.filter_cons_of_pos hkind, meets_cons, List.append_nil, if_pos hfragment, List.append_cons]
      rcases addFragment_step h hid with ⟨hrepeated, hrun⟩ | ⟨hrepeated, fragments, hrun, hafter⟩
      · exact .inl ⟨.inl ⟨id, hid, hrepeated⟩, id, c, by rw [run_bind, hrun]⟩
      · -- The relation speaks of some id, which can only be that of the element.
        have hnot : ¬ FragmentRepeated c.engine.databaseId nameSpace before e := by
          rintro ⟨other, hother, h'⟩
          obtain rfl : id = other := by simpa [hid] using hother
          exact hrepeated h'
        have hrest := ih hnamed.2 hafter
        simp only [List.append_assoc, List.singleton_append] at hrest ⊢
        rw [run_bind, hrun]
        simpa [hnot] using hrest
    · rw [List.filter_cons_of_neg (by simpa [isFragment] using hfragment), if_neg hfragment]
      exact ih hnamed.2 h

theorem addFragments_variants {nameSpace : String} {before elements : List Element} {c : Catalog} (h : FragmentsOf nameSpace before c)
    (hnamed : ∀ e ∈ elements, isFragment e = true → (e.attribute? "id").isSome)
    (hnodup : ((before ++ elements.filter isFragment).map (variantKey nameSpace)).Nodup) :
    ∃ fragments, run (addFragments nameSpace elements) c = (.ok (), { c with fragments }) ∧
      FragmentsOf nameSpace (before ++ elements.filter isFragment) { c with fragments } := by
  rcases addFragments_meets hnamed h with ⟨⟨first, e, rest, hsplit, id, hid, hrepeated⟩, -⟩ | ⟨-, hadded⟩
  · rw [hsplit, ← List.append_assoc, List.append_cons] at hnodup
    exact absurd ((mem_variantKeys hid).2 hrepeated.2) (notMem_of_nodup hnodup)
  · exact hadded

/-! ## Statements -/

def isStatement (e : Element) : Bool := (StatementKind.read e.name).toOption.isSome

/-- An id under which a key is registered. -/
def IsKeyId (id : String) : Prop := ∃ short, id = short ++ selectKeySuffix

instance (id : String) : Decidable (IsKeyId id) :=
  decidable_of_iff (selectKeySuffix.toList <:+ id.toList) (by
    constructor
    · rintro ⟨short, hshort⟩
      exact ⟨String.ofList short, String.ext (by simpa using hshort.symm)⟩
    · rintro ⟨short, rfl⟩
      exact ⟨short.toList, by simp⟩)

/-- The statement of an element, and that of its key if it has one for the database. -/
def statementsOf (engine : Engine) (nameSpace id : String) (e : Element) : Option (Statement × Option Statement) := do
  let kind ← (StatementKind.read e.name).toOption
  let type ← (parameterTypeOf engine e).toOption
  let key := winner engine.databaseId (keysIn e.children)
  some (statementOf id nameSpace kind type key e, key.map (keyStatement id nameSpace type))

/-- A statement with an id that is none of a key, a type that is known and no two keys for one database. -/
structure Registrable (engine : Engine) (nameSpace : String) (e : Element) : Prop where
  id : ∃ id, idOf nameSpace e = some id ∧ ¬ IsKeyId id
  type : ∃ type, parameterTypeOf engine e = .ok type
  keys : ((keysIn e.children).map databaseOf).Nodup

/-- The statements are those of the elements, and the statements of keys are theirs. -/
structure StatementsOf (nameSpace : String) (elements : List Element) (c : Catalog) : Prop where
  get : ∀ id, ¬ IsKeyId id → Dict.get? c.statements id =
    ((winnerOf c.engine.databaseId nameSpace id elements).bind (statementsOf c.engine nameSpace id)).map Prod.fst
  key : ∀ id, Dict.get? c.statements (id ++ selectKeySuffix) =
    ((winnerOf c.engine.databaseId nameSpace id elements).bind (statementsOf c.engine nameSpace id)).bind Prod.snd

theorem Registrable.partsOf (h : Registrable c.engine nameSpace e) :
    ∃ type, c.partsOf e = .ok (type, winner c.engine.databaseId (keysIn e.children)) ∧ parameterTypeOf c.engine e = .ok type := by
  obtain ⟨type, htype⟩ := h.type
  refine ⟨type, ?_, htype⟩
  have hkey := @chooseKey_eq [] c ((e.attribute? "id").getD "") e.children h.keys
  rw [List.nil_append] at hkey
  rw [Catalog.partsOf, htype, except_ok_bind]
  exact except_bind_ok.2 ⟨_, mapError_ok.2 hkey, rfl⟩

theorem statementsOf_some (nameSpace : String) {engine : Engine} {kind : StatementKind}
    (hkind : StatementKind.read e.name = .ok kind) {type : ValueType} (htype : parameterTypeOf engine e = .ok type) (id : String) :
    statementsOf engine nameSpace id e =
      some (statementOf id nameSpace kind type (winner engine.databaseId (keysIn e.children)) e,
        (winner engine.databaseId (keysIn e.children)).map (keyStatement id nameSpace type)) := by
  rw [statementsOf, hkind, htype]
  rfl

theorem placeOf_eq (c : Catalog) (hid : idOf nameSpace e = some id) :
    c.placeOf nameSpace e =
      if c.matchesDatabase (databaseOf e) then
        match (Dict.get? c.statements id).map fun previous => Precedence.of previous.databaseId (databaseOf e) with
        | none | some .replace => .ok (some id)
        | some .keep => .ok none
        | some .duplicate => .error (.compile (.duplicateStatement id))
      else .ok none := by
  obtain ⟨name, hname, rfl⟩ := Option.map_eq_some_iff.1 hid
  have hrequired : (e.required "id").mapError Error.compile = .ok name := by
    rw [Element.required, hname]
    rfl
  rw [placeOf, hrequired]
  rfl

theorem registered_engine (id nameSpace : String) (kind : StatementKind) (e : Element) (parts : ValueType × Option Element) :
    (c.registered id nameSpace kind e parts).engine = c.engine ∧ (c.registered id nameSpace kind e parts).fragments = c.fragments := by
  obtain ⟨type, key⟩ := parts
  cases key <;> exact ⟨rfl, rfl⟩

theorem StatementsOf.same (h : StatementsOf nameSpace before c)
    (hwinner : ∀ id, winnerOf c.engine.databaseId nameSpace id (before ++ [e]) = winnerOf c.engine.databaseId nameSpace id before) :
    StatementsOf nameSpace (before ++ [e]) c :=
  ⟨fun id hid => by rw [h.get id hid, hwinner], fun id => by rw [h.key, hwinner]⟩

/-- A statement that is taken is registered with the statement of its key, and the old one of that id is gone. -/
theorem StatementsOf.registered (h : StatementsOf nameSpace before c) {kind : StatementKind}
    (hkind : StatementKind.read e.name = .ok kind) {type : ValueType} (htype : parameterTypeOf c.engine e = .ok type)
    (hfree : ¬ IsKeyId id)
    (hwinner : ∀ other, winnerOf c.engine.databaseId nameSpace other (before ++ [e]) =
      if other = id then some e else winnerOf c.engine.databaseId nameSpace other before) :
    StatementsOf nameSpace (before ++ [e])
      (c.registered id nameSpace kind e (type, winner c.engine.databaseId (keysIn e.children))) := by
  have hstatements := statementsOf_some nameSpace hkind htype id
  constructor
  · intro other hother
    rw [(registered_engine id nameSpace kind e _).1, get?_registered, hwinner]
    by_cases heq : other = id
    · rw [heq, if_pos rfl, if_pos rfl, Option.bind_some, hstatements]
      rfl
    · rw [if_neg heq, if_neg fun hkey => hother ⟨id, hkey⟩, if_neg heq, h.get other hother]
  · intro other
    rw [(registered_engine id nameSpace kind e _).1, get?_registered, hwinner, if_neg fun heq => hfree ⟨other, heq.symm⟩]
    by_cases heq : other = id
    · rw [heq, if_pos rfl, if_pos rfl, Option.bind_some, hstatements]
      rfl
    · rw [if_neg (suffixed_inj.not.2 heq), if_neg heq, h.key]

theorem addElement_variants (h : StatementsOf nameSpace before c)
    (hbefore : ∀ v ∈ before, Registrable c.engine nameSpace v ∧ isStatement v = true)
    (hstatement : isStatement e = true) (he : Registrable c.engine nameSpace e)
    (hnew : variantKey nameSpace e ∉ before.map (variantKey nameSpace)) :
    ∃ n d, run (addElement nameSpace e) c = (.ok n, d) ∧ d.engine = c.engine ∧ d.fragments = c.fragments ∧
      StatementsOf nameSpace (before ++ [e]) d := by
  obtain ⟨id, hid, hfree⟩ := he.id
  obtain ⟨kind, hkind⟩ := Option.isSome_iff_exists.1 hstatement
  have hkind := toOption_eq_some.1 hkind
  obtain ⟨type, hparts, htype⟩ := he.partsOf
  have hprevious {w : Element} (hw : winner c.engine.databaseId (variants nameSpace id before) = some w) :
      ∃ s, Dict.get? c.statements id = some s ∧ s.databaseId = databaseOf w := by
    obtain ⟨hregistrable, hisStatement⟩ := hbefore w (List.mem_of_mem_filter (mem_of_winner hw))
    obtain ⟨kind, hkind⟩ := Option.isSome_iff_exists.1 hisStatement
    obtain ⟨type, htype⟩ := hregistrable.type
    have hget := h.get id hfree
    rw [winnerOf, hw, Option.bind_some, statementsOf_some nameSpace (toOption_eq_some.1 hkind) htype] at hget
    exact ⟨_, hget, rfl⟩
  have hadd : addElement nameSpace e = addStatement nameSpace kind e := by rw [addElement, hkind]
  rw [hadd, run_addStatement, placeOf_eq c hid, hparts]
  -- Another element for the same database is excluded, so that an error is not among the cases.
  rcases outcome c (databaseOf_new hid hnew) with ⟨hmatches, hafter⟩ | ⟨hmatches, hw, hprecedence, hafter⟩ |
    ⟨hmatches, hw, hafter⟩
  · rw [if_neg (by simp [hmatches])]
    exact ⟨0, c, rfl, rfl, rfl, h.same (winnerOf_same hid hafter)⟩
  · obtain ⟨s, hs, hdatabase⟩ := hprevious hw
    rw [if_pos hmatches, hs, Option.map_some, hdatabase, hprecedence]
    exact ⟨0, c, rfl, rfl, rfl, h.same (winnerOf_same hid (hafter.trans hw.symm))⟩
  · have hregistered := h.registered hkind htype hfree (winnerOf_take hid hafter)
    obtain ⟨hengine, hfragments⟩ := registered_engine (c := c) id nameSpace kind e (type, winner c.engine.databaseId (keysIn e.children))
    refine ⟨1, _, ?_, hengine, hfragments, hregistered⟩
    rw [if_pos hmatches]
    cases hwinner : winner c.engine.databaseId (variants nameSpace id before) with
    | none =>
      have hget := h.get id hfree
      rw [winnerOf, hwinner] at hget
      rw [hget]
      rfl
    | some w =>
      obtain ⟨s, hs, hdatabase⟩ := hprevious hwinner
      rw [hs, Option.map_some, hdatabase, hw w hwinner]

theorem addElement_skips (h : isStatement e = false) (c : Catalog) : run (addElement nameSpace e) c = (.ok 0, c) := by
  unfold addElement
  unfold isStatement at h
  cases hread : StatementKind.read e.name with
  | error fault => rfl
  | ok kind =>
    rw [hread] at h
    cases h

theorem addStatements_variants {before elements : List Element} {c : Catalog} (h : StatementsOf nameSpace before c)
    (hbefore : ∀ v ∈ before, Registrable c.engine nameSpace v ∧ isStatement v = true)
    (helements : ∀ e ∈ elements, isStatement e = true → Registrable c.engine nameSpace e)
    (hnodup : ((before ++ elements.filter isStatement).map (variantKey nameSpace)).Nodup) :
    ∃ n d, run (addStatements nameSpace elements) c = (.ok n, d) ∧ d.engine = c.engine ∧ d.fragments = c.fragments ∧
      StatementsOf nameSpace (before ++ elements.filter isStatement) d := by
  induction elements generalizing before c with
  | nil => exact ⟨0, c, rfl, rfl, rfl, by rwa [List.filter_nil, List.append_nil]⟩
  | cons e elements ih =>
    rw [List.forall_mem_cons] at helements
    cases hstatement : isStatement e with
    | true =>
      have he := helements.1 hstatement
      rw [List.filter_cons_of_pos hstatement, List.append_cons] at hnodup ⊢
      obtain ⟨added, m, hfirst, hengine, hfragments, hvariants⟩ := addElement_variants h hbefore hstatement he (notMem_of_nodup hnodup)
      -- The engine is in the hypotheses on the elements, and a step leaves it as it was.
      have hbefore' : ∀ v ∈ before ++ [e], Registrable m.engine nameSpace v ∧ isStatement v = true := by
        rw [hengine]
        intro v hv
        rcases List.mem_append.1 hv with hv | hv
        · exact hbefore v hv
        · exact (List.mem_singleton.1 hv) ▸ ⟨he, hstatement⟩
      obtain ⟨more, d, hmore, hengine', hfragments', hvariants⟩ := ih hvariants hbefore' (hengine ▸ helements.2) hnodup
      exact ⟨added + more, d, addStatements_cons_ok.2 ⟨added, more, m, hfirst, hmore, rfl⟩, hengine'.trans hengine,
        hfragments'.trans hfragments, hvariants⟩
    | false =>
      rw [List.filter_cons_of_neg (by simp [hstatement])] at hnodup ⊢
      obtain ⟨more, d, hmore, hd⟩ := ih h hbefore helements.2 hnodup
      exact ⟨0 + more, d, addStatements_cons_ok.2 ⟨0, more, c, addElement_skips hstatement c, hmore, rfl⟩, hd⟩

/-! ## Mappers -/

/-- Elements whose variants are told apart by their ids as they are registered and their databases, and that can be registered. -/
structure Distinct (engine : Engine) (nameSpace : String) (elements : List Element) : Prop where
  named : ∀ e ∈ elements, isFragment e = true → (e.attribute? "id").isSome
  registrable : ∀ e ∈ elements, isStatement e = true → Registrable engine nameSpace e
  fragments : ((elements.filter isFragment).map (variantKey nameSpace)).Nodup
  statements : ((elements.filter isStatement).map (variantKey nameSpace)).Nodup

theorem Distinct.perm {engine : Engine} {elements' : List Element} (h : Distinct engine nameSpace elements)
    (hperm : elements.Perm elements') : Distinct engine nameSpace elements' where
  named e he := h.named e (hperm.mem_iff.2 he)
  registrable e he := h.registrable e (hperm.mem_iff.2 he)
  fragments := ((hperm.filter _).map _).nodup_iff.1 h.fragments
  statements := ((hperm.filter _).map _).nodup_iff.1 h.statements

theorem Distinct.left {engine : Engine} {first rest : List Element} (h : Distinct engine nameSpace (first ++ rest)) :
    Distinct engine nameSpace first where
  named e he := h.named e (List.mem_append_left _ he)
  registrable e he := h.registrable e (List.mem_append_left _ he)
  fragments := (((List.sublist_append_left first rest).filter _).map _).nodup h.fragments
  statements := (((List.sublist_append_left first rest).filter _).map _).nodup h.statements

/-- What is registered is what the elements come to. -/
structure Loaded (nameSpace : String) (elements : List Element) (c : Catalog) : Prop where
  fragments : FragmentsOf nameSpace (elements.filter isFragment) c
  statements : StatementsOf nameSpace (elements.filter isStatement) c

theorem addMapper_loaded {before : List Element} {text : String} {root : Element} (h : Loaded nameSpace before c)
    (hread : readMapper text = .ok (nameSpace, root)) (hdistinct : Distinct c.engine nameSpace (before ++ root.elements)) :
    ∃ n d, run (addMapper text) c = (.ok n, d) ∧ d.engine = c.engine ∧ Loaded nameSpace (before ++ root.elements) d := by
  have hfragments := hdistinct.fragments
  have hstatements := hdistinct.statements
  rw [List.filter_append] at hfragments hstatements
  obtain ⟨fragments, hadd, hafter⟩ := addFragments_variants h.fragments
    (fun e he => hdistinct.named e (List.mem_append_right _ he)) hfragments
  have hbefore : ∀ v ∈ before.filter isStatement, Registrable c.engine nameSpace v ∧ isStatement v = true := by
    intro v hv
    obtain ⟨hv, hstatement⟩ := List.mem_filter.1 hv
    exact ⟨hdistinct.registrable v (List.mem_append_left _ hv) hstatement, hstatement⟩
  have hkept : StatementsOf nameSpace (before.filter isStatement) { c with fragments } := ⟨h.statements.get, h.statements.key⟩
  obtain ⟨n, d, hrest, hengine, hsame, hd⟩ := addStatements_variants hkept hbefore
    (fun e he => hdistinct.registrable e (List.mem_append_right _ he)) hstatements
  refine ⟨n, d, ?_, hengine, ?_, by rwa [List.filter_append]⟩
  · rw [run_addMapper, hread]
    exact bind_ok.2 ⟨(), _, hadd, hrest⟩
  · rw [List.filter_append]
    exact ⟨hsame ▸ hafter.sorted, fun id => by rw [hsame, hengine, hafter.get]⟩

/-- The text is that of a mapper of the namespace with the elements. -/
def IsMapper (nameSpace text : String) (elements : List Element) : Prop :=
  ∃ root, readMapper text = .ok (nameSpace, root) ∧ root.elements = elements

theorem isMapper_of_read {text : String}
    (h : (readMapper text).toOption = some (nameSpace, ⟨"mapper", [("namespace", nameSpace)], elements.map Element.toContent⟩)) :
    IsMapper nameSpace text elements := by
  refine ⟨_, toOption_eq_some.1 h, ?_⟩
  rw [Element.elements, List.filterMap_map]
  exact List.filterMap_some

/-- The elements in some order, spread over the mappers. -/
def Holds (nameSpace : String) (texts : List String) (elements : List Element) : Prop :=
  ∃ parts, List.Forall₂ (IsMapper nameSpace) texts parts ∧ parts.flatten.Perm elements

theorem after_loaded {texts : List String} {parts : List (List Element)} (hparts : List.Forall₂ (IsMapper nameSpace) texts parts)
    (h : Loaded nameSpace before c) (hdistinct : Distinct c.engine nameSpace (before ++ parts.flatten)) :
    (c.after (texts.map .add)).engine = c.engine ∧ Loaded nameSpace (before ++ parts.flatten) (c.after (texts.map .add)) ∧
      ∀ first text rest, texts = first ++ text :: rest → ∃ n, (run (addMapper text) (c.after (first.map .add))).1 = .ok n := by
  induction hparts generalizing before c with
  | nil =>
    refine ⟨rfl, by rwa [List.flatten_nil, List.append_nil], fun first text rest hsplit => ?_⟩
    cases first <;> cases hsplit
  | @cons text part texts parts hmapper hparts ih =>
    obtain ⟨root, hread, rfl⟩ := hmapper
    rw [List.flatten_cons, ← List.append_assoc] at hdistinct ⊢
    obtain ⟨n, d, hrun, hengine, hd⟩ := addMapper_loaded h hread hdistinct.left
    have happly : Call.apply c (.add text) = d := congrArg Prod.snd hrun
    have hcons (calls : List Call) : c.after (.add text :: calls) = d.after calls := congrArg (after · calls) happly
    rw [← hengine] at hdistinct
    obtain ⟨hengine', hloaded, hrest⟩ := ih hd hdistinct
    rw [List.map_cons, hcons]
    refine ⟨hengine'.trans hengine, hloaded, fun first other rest hsplit => ?_⟩
    cases first with
    | nil =>
      cases hsplit
      exact ⟨n, congrArg Prod.fst hrun⟩
    | cons _ first =>
      injection hsplit with htext hsplit
      subst htext
      rw [List.map_cons, hcons]
      exact hrest first other rest hsplit

theorem Loaded.perm {elements' : List Element} (h : Loaded nameSpace elements c) (hdistinct : Distinct c.engine nameSpace elements)
    (hperm : elements.Perm elements') : Loaded nameSpace elements' c := by
  have hfragment := winnerOf_perm c.engine.databaseId (hperm.filter isFragment) hdistinct.fragments
  have hstatement := winnerOf_perm c.engine.databaseId (hperm.filter isStatement) hdistinct.statements
  constructor
  · exact ⟨h.fragments.sorted, fun id => by rw [h.fragments.get, hfragment]⟩
  · exact ⟨fun id hid => by rw [h.statements.get id hid, hstatement], fun id => by rw [h.statements.key, hstatement]⟩

theorem loaded_nil {config : Config} (hc : Catalog.ofConfig config = .ok c) (nameSpace : String) : Loaded nameSpace [] c := by
  obtain ⟨engine, -, rfl⟩ := except_map_ok.1 hc
  exact ⟨⟨List.Pairwise.nil, fun id => rfl⟩, ⟨fun id _ => rfl, fun id => rfl⟩⟩

theorem ofConfig_databaseId {config : Config} (hc : Catalog.ofConfig config = .ok c) : c.engine.databaseId = config.databaseId := by
  obtain ⟨engine, hengine, rfl⟩ := except_map_ok.1 hc
  obtain ⟨aliases, -, rfl⟩ := except_map_ok.1 hengine
  rfl

theorem Holds.loaded {config : Config} (hc : Catalog.ofConfig config = .ok c) (hdistinct : Distinct c.engine nameSpace elements)
    {texts : List String} (h : Holds nameSpace texts elements) :
    (c.after (texts.map .add)).engine = c.engine ∧ Loaded nameSpace elements (c.after (texts.map .add)) ∧
      ∀ first text rest, texts = first ++ text :: rest → ∃ n, (run (addMapper text) (c.after (first.map .add))).1 = .ok n := by
  obtain ⟨parts, hparts, hperm⟩ := h
  have hparted := hdistinct.perm hperm.symm
  obtain ⟨hengine, hloaded, hcalls⟩ := after_loaded hparts (loaded_nil hc nameSpace) hparted
  rw [List.nil_append] at hloaded
  exact ⟨hengine, hloaded.perm (hengine ▸ hparted) hperm, hcalls⟩

/-- Mappers with the elements in any order and spread in any way load without an error and leave the same: under every id the
variant for the configured database if there is one, otherwise the one for none in particular if there is one, and the keys of just
those statements. -/
theorem loaded_variants {config : Config} (hc : Catalog.ofConfig config = .ok c) (h : Distinct c.engine nameSpace elements)
    {texts : List String} (htexts : Holds nameSpace texts elements) :
    (∀ first text rest, texts = first ++ text :: rest → ∃ n, (run (addMapper text) (c.after (first.map .add))).1 = .ok n) ∧
    (∀ id, Dict.get? (c.after (texts.map .add)).fragments id =
      (winnerOf config.databaseId nameSpace id (elements.filter isFragment)).map (fragmentOf nameSpace)) ∧
    (∀ id, ¬ IsKeyId id → Dict.get? (c.after (texts.map .add)).statements id =
      ((winnerOf config.databaseId nameSpace id (elements.filter isStatement)).bind (statementsOf c.engine nameSpace id)).map Prod.fst) ∧
    (∀ id, Dict.get? (c.after (texts.map .add)).statements (id ++ selectKeySuffix) =
      ((winnerOf config.databaseId nameSpace id (elements.filter isStatement)).bind (statementsOf c.engine nameSpace id)).bind Prod.snd) ∧
    ∀ others, Holds nameSpace others elements →
      (c.after (others.map .add)).fragments = (c.after (texts.map .add)).fragments ∧
        (c.after (others.map .add)).statements = (c.after (texts.map .add)).statements := by
  obtain ⟨hengine, hloaded, hcalls⟩ := htexts.loaded hc h
  have hdatabase := ofConfig_databaseId hc
  have hfragments := hloaded.fragments.get
  have hstatements := hloaded.statements.get
  have hkeys := hloaded.statements.key
  rw [hengine, hdatabase] at hfragments hstatements hkeys
  refine ⟨hcalls, hfragments, hstatements, hkeys, fun others hothers => ?_⟩
  obtain ⟨hengine', hloaded', -⟩ := hothers.loaded hc h
  -- Sorted dictionaries with the same entries are equal, whatever was put in first.
  have hindexed (calls : List Call) : Dict.Sorted (c.after calls).statements := (after_indexed (ofConfig_empty hc).1 calls).sorted
  constructor
  · refine hloaded'.fragments.sorted.ext hloaded.fragments.sorted fun id => ?_
    rw [hloaded'.fragments.get, hengine', hdatabase, hfragments]
  · refine (hindexed _).ext (hindexed _) fun id => ?_
    by_cases hid : IsKeyId id
    · obtain ⟨short, rfl⟩ := hid
      rw [hloaded'.statements.key, hengine', hdatabase, hkeys]
    · rw [hloaded'.statements.get id hid, hengine', hdatabase, hstatements id hid]

/-- A statement and a fragment for a database and for none, the statement for none with a key, in two orders. -/
theorem loaded_variants_two_orders :
    ∃ (c : Catalog) (texts others : List String) (elements : List Element),
      Catalog.ofConfig { Config.initial with databaseId := some "pg" } = .ok c ∧ Distinct c.engine "a" elements ∧
      texts = [
        "<mapper namespace=\"a\"><insert id=\"x\"><selectKey>3</selectKey>4</insert><sql id=\"c\" databaseId=\"pg\">2</sql></mapper>",
        "<mapper namespace=\"a\"><sql id=\"c\">1</sql><insert id=\"x\" databaseId=\"pg\">5</insert></mapper>"] ∧
      others = [
        "<mapper namespace=\"a\"><insert id=\"x\" databaseId=\"pg\">5</insert><sql id=\"c\">1</sql></mapper>",
        "<mapper namespace=\"a\"><sql id=\"c\" databaseId=\"pg\">2</sql><insert id=\"x\"><selectKey>3</selectKey>4</insert></mapper>"] ∧
      Holds "a" texts elements ∧ Holds "a" others elements ∧
      Dict.get? (c.after (texts.map .add)).statements ("a.x" ++ selectKeySuffix) = none ∧
      (c.after (others.map .add)).statements = (c.after (texts.map .add)).statements := by
  let neutralFragment : Element := ⟨"sql", [("id", "c")], [.text "1"]⟩
  let fragment : Element := ⟨"sql", [("id", "c"), ("databaseId", "pg")], [.text "2"]⟩
  let neutral : Element := ⟨"insert", [("id", "x")], [.element "selectKey" [] [.text "3"], .text "4"]⟩
  let statement : Element := ⟨"insert", [("id", "x"), ("databaseId", "pg")], [.text "5"]⟩
  let texts := [
    "<mapper namespace=\"a\"><insert id=\"x\"><selectKey>3</selectKey>4</insert><sql id=\"c\" databaseId=\"pg\">2</sql></mapper>",
    "<mapper namespace=\"a\"><sql id=\"c\">1</sql><insert id=\"x\" databaseId=\"pg\">5</insert></mapper>"]
  let others := [
    "<mapper namespace=\"a\"><insert id=\"x\" databaseId=\"pg\">5</insert><sql id=\"c\">1</sql></mapper>",
    "<mapper namespace=\"a\"><sql id=\"c\" databaseId=\"pg\">2</sql><insert id=\"x\"><selectKey>3</selectKey>4</insert></mapper>"]
  have hc := @ofConfig_without_types { Config.initial with databaseId := some "pg" } rfl rfl
  have hdistinct (engine : Engine) : Distinct engine "a" [neutral, fragment, neutralFragment, statement] := by
    refine ⟨by decide, fun e he _ => ?_, by decide, by decide⟩
    have hregistrable : (∃ id ∈ ["a.x", "a.c"], idOf "a" e = some id ∧ ¬ IsKeyId id) ∧ e.attribute? "parameterType" = none ∧
        ((keysIn e.children).map databaseOf).Nodup := by
      revert e
      decide
    obtain ⟨⟨id, -, hid⟩, htype, hkeys⟩ := hregistrable
    exact ⟨⟨id, hid⟩, ⟨.object, by rw [parameterTypeOf, htype]⟩, hkeys⟩
  have htexts : Holds "a" texts [neutral, fragment, neutralFragment, statement] :=
    ⟨[[neutral, fragment], [neutralFragment, statement]],
      .cons (isMapper_of_read (by decide +kernel)) (.cons (isMapper_of_read (by decide +kernel)) .nil), .refl _⟩
  have hothers : Holds "a" others [neutral, fragment, neutralFragment, statement] :=
    ⟨[[statement, neutralFragment], [fragment, neutral]],
      .cons (isMapper_of_read (by decide +kernel)) (.cons (isMapper_of_read (by decide +kernel)) .nil), by decide⟩
  obtain ⟨-, -, -, hkey, hsame⟩ := loaded_variants hc (hdistinct _) htexts
  exact ⟨_, texts, others, _, hc, hdistinct _, rfl, rfl, htexts, hothers, (hkey "a.x").trans (by decide), (hsame _ hothers).2⟩

/-- As `Distinct` for statements, but by their ids as they are written. -/
structure DistinctAsWritten (engine : Engine) (elements : List Element) : Prop where
  id : ∀ e ∈ elements, ∃ id, e.attribute? "id" = some id ∧ ¬ IsKeyId id
  type : ∀ e ∈ elements, ∃ type, parameterTypeOf engine e = .ok type
  keys : ∀ e ∈ elements, ((keysIn e.children).map databaseOf).Nodup
  statements : (elements.map fun e => (e.attribute? "id", databaseOf e)).Nodup

/-- It is the ids as they are registered that have to differ and to be none of keys: an id is trimmed and may have the namespace. -/
theorem order_matters_as_written :
    ∃ c, Catalog.ofConfig Config.initial = .ok c ∧
      (∃ (e f : Element) (text other : String), e = ⟨"select", [("id", "x")], [.text "1"]⟩ ∧
        f = ⟨"select", [("id", "a.x")], [.text "2"]⟩ ∧
        text = "<mapper namespace=\"a\"><select id=\"x\">1</select><select id=\"a.x\">2</select></mapper>" ∧
        other = "<mapper namespace=\"a\"><select id=\"a.x\">2</select><select id=\"x\">1</select></mapper>" ∧
        DistinctAsWritten c.engine [e, f] ∧ IsMapper "a" text [e, f] ∧ IsMapper "a" other [f, e] ∧
        (Dict.get? (c.after [.add text]).statements "a.x").map (·.body) = some e ∧
        (Dict.get? (c.after [.add other]).statements "a.x").map (·.body) = some f) ∧
      ∃ (e f : Element) (text other : String), e = ⟨"insert", [("id", "x")], [.text "4"]⟩ ∧
        f = ⟨"select", [("id", "x!selectKey ")], [.text "5"]⟩ ∧
        text = "<mapper namespace=\"a\"><insert id=\"x\">4</insert><select id=\"x!selectKey \">5</select></mapper>" ∧
        other = "<mapper namespace=\"a\"><select id=\"x!selectKey \">5</select><insert id=\"x\">4</insert></mapper>" ∧
        DistinctAsWritten c.engine [e, f] ∧ IsMapper "a" text [e, f] ∧ IsMapper "a" other [f, e] ∧
        (Dict.get? (c.after [.add text]).statements "a.x!selectKey").map (·.body) = some f ∧
        (Dict.get? (c.after [.add other]).statements "a.x!selectKey").map (·.body) = none := by
  have hc := @ofConfig_without_types Config.initial rfl rfl
  have hwritten {elements : List Element} (ids : List String)
      (h : ∀ e ∈ elements, (∃ id ∈ ids, e.attribute? "id" = some id ∧ ¬ IsKeyId id) ∧ e.attribute? "parameterType" = none ∧
        ((keysIn e.children).map databaseOf).Nodup)
      (hstatements : (elements.map fun e => (e.attribute? "id", databaseOf e)).Nodup) (engine : Engine) :
      DistinctAsWritten engine elements := by
    refine ⟨fun e he => ?_, fun e he => ?_, fun e he => (h e he).2.2, hstatements⟩
    · obtain ⟨id, -, hid⟩ := (h e he).1
      exact ⟨id, hid⟩
    · exact ⟨.object, by rw [parameterTypeOf, (h e he).2.1]⟩
  refine ⟨_, hc, ⟨_, _, _, _, rfl, rfl, rfl, rfl, hwritten ["x", "a.x"] (by decide) (by decide) _, ?_, ?_, ?_, ?_⟩,
    _, _, _, _, rfl, rfl, rfl, rfl, hwritten ["x", "x!selectKey "] (by decide) (by decide) _, ?_, ?_, ?_, ?_⟩
  · exact isMapper_of_read (by decide +kernel)
  · exact isMapper_of_read (by decide +kernel)
  · decide +kernel
  · decide +kernel
  · exact isMapper_of_read (by decide +kernel)
  · exact isMapper_of_read (by decide +kernel)
  · decide +kernel
  · decide +kernel

end Catalog

end SqlTemplate
