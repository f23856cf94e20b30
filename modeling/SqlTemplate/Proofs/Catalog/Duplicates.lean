import SqlTemplate.Proofs.Catalog.Order

/-! # Repeated definitions

A new variant is compared with the one that is registered, which is that for the configured database if there is one. So a repeated
variant is found wherever it stands, except a variant for no database in particular after one for the configured database.
-/

namespace SqlTemplate

open SqlTemplate.Computation

namespace Catalog

variable {c : Catalog} {configured : Option String} {nameSpace id : String} {before : List Element} {e : Element}

/-- What stands under an id is for the same database as the winner, so that it goes before the same variants. -/
theorem map_precedence {α : Type} {found : Option α} {database : α → Option String} {w : Option Element}
    (h : found.map database = w.map databaseOf) (e : Element) :
    (found.map fun a => Precedence.of (database a) (databaseOf e)) = w.map fun w => Precedence.of (databaseOf w) (databaseOf e) := by
  have hmap := congrArg (Option.map fun id => Precedence.of id (databaseOf e)) h
  rwa [Option.map_map, Option.map_map] at hmap

/-! ## Statements -/

/-- What an id stands for once one more element is read. A statement that is registered defines the id of its key anew. -/
def define (configured : Option String) (nameSpace : String) (defined : String → List Element) (e : Element) (id : String) :
    List Element :=
  match idOf nameSpace e with
  | none => defined id
  | some own =>
    if id = own then defined own ++ [e]
    else if id = own ++ selectKeySuffix ∧ Considered configured (defined own) e then keysIn e.children
    else defined id

/-- The elements that define each id: those that have it, and the keys of the statement that it is the id of a key for. -/
def definitions (configured : Option String) (nameSpace : String) (elements : List Element) : String → List Element :=
  elements.foldl (define configured nameSpace) fun _ => []

theorem definitions_concat (configured : Option String) (hid : idOf nameSpace e = some id) (before : List Element) (other : String) :
    definitions configured nameSpace (before ++ [e]) other =
      if other = id then definitions configured nameSpace before id ++ [e]
      else if other = id ++ selectKeySuffix ∧ Considered configured (definitions configured nameSpace before id) e then
        keysIn e.children
      else definitions configured nameSpace before other := by
  rw [definitions, List.foldl_append, List.foldl_cons, List.foldl_nil, define, hid]
  rfl

/-- An id that is none of a key stands for the variants that have it. -/
theorem definitions_eq_variants (configured : Option String) (nameSpace : String) (before : List Element) (hfree : ¬ IsKeyId id) :
    definitions configured nameSpace before id = variants nameSpace id before := by
  induction before using List.reverseRecOn with
  | nil => rfl
  | append_singleton before e ih =>
    rw [variants_concat]
    cases hid : idOf nameSpace e with
    | none =>
      rw [definitions, List.foldl_append, List.foldl_cons, List.foldl_nil, define, hid, if_neg (by simp)]
      exact ih
    | some own =>
      rw [definitions_concat configured hid]
      by_cases heq : id = own
      · subst heq
        rw [if_pos rfl, if_pos rfl, ih]
      · rw [if_neg heq, if_neg fun h => hfree ⟨own, h.1⟩, ih, if_neg (by simpa using Ne.symm heq)]

/-- The statement is for the same database as something before it that its id stands for, or two of its keys are. -/
def Clashes (configured : Option String) (nameSpace : String) (before : List Element) (e : Element) : Prop :=
  ∃ id, idOf nameSpace e = some id ∧ Considered configured (definitions configured nameSpace before id) e ∧
    (databaseOf e ∈ (definitions configured nameSpace before id).map databaseOf ∨ Meets (Repeated configured) (keysIn e.children))

/-- Under each id a statement is registered for the database of the winner. -/
def StatementsFor (nameSpace : String) (before : List Element) (c : Catalog) : Prop :=
  ∀ id, (Dict.get? c.statements id).map Statement.databaseId =
    (winner c.engine.databaseId (definitions c.engine.databaseId nameSpace before id)).map databaseOf

/-- A statement that is passed over leaves all winners as they are. -/
theorem StatementsFor.pass (h : StatementsFor nameSpace before c) (hid : idOf nameSpace e = some id)
    (hnot : ¬ Considered c.engine.databaseId (definitions c.engine.databaseId nameSpace before id) e)
    (hafter : winner c.engine.databaseId (definitions c.engine.databaseId nameSpace before id ++ [e]) =
      winner c.engine.databaseId (definitions c.engine.databaseId nameSpace before id)) :
    StatementsFor nameSpace (before ++ [e]) c := by
  intro other
  rw [h other, definitions_concat _ hid]
  by_cases hother : other = id
  · rw [if_pos hother, hother, hafter]
  · rw [if_neg hother, if_neg fun h => hnot h.2]

theorem StatementsFor.take (h : StatementsFor nameSpace before c) (hid : idOf nameSpace e = some id)
    (hconsidered : Considered c.engine.databaseId (definitions c.engine.databaseId nameSpace before id) e)
    (hafter : winner c.engine.databaseId (definitions c.engine.databaseId nameSpace before id ++ [e]) = some e) (kind : StatementKind)
    (type : ValueType) :
    StatementsFor nameSpace (before ++ [e])
      (c.registered id nameSpace kind e (type, winner c.engine.databaseId (keysIn e.children))) := by
  intro other
  rw [(registered_engine id nameSpace kind e _).1, get?_registered, definitions_concat _ hid]
  by_cases hown : other = id
  · rw [if_pos hown, if_pos hown, hafter]
    rfl
  by_cases hkey : other = id ++ selectKeySuffix
  · rw [if_neg hown, if_pos hkey, if_neg hown, if_pos ⟨hkey, hconsidered⟩, Option.map_map]
    rfl
  · rw [if_neg hown, if_neg hkey, if_neg hown, if_neg fun h => hkey h.1]
    exact h other

theorem addElement_step (h : StatementsFor nameSpace before c) (hstatement : isStatement e = true) (hid : idOf nameSpace e = some id)
    {type : ValueType} (htype : parameterTypeOf c.engine e = .ok type) :
    (Clashes c.engine.databaseId nameSpace before e ∧
        ∃ other d, run (addElement nameSpace e) c = (.error (.compile (.duplicateStatement other)), d)) ∨
      (¬ Clashes c.engine.databaseId nameSpace before e ∧
        ∃ n d, run (addElement nameSpace e) c = (.ok n, d) ∧ d.engine = c.engine ∧ StatementsFor nameSpace (before ++ [e]) d) := by
  obtain ⟨kind, hkind⟩ := Option.isSome_iff_exists.1 hstatement
  have hadd : addElement nameSpace e = addStatement nameSpace kind e := by rw [addElement, toOption_eq_some.1 hkind]
  have hclashes : Clashes c.engine.databaseId nameSpace before e ↔
      Considered c.engine.databaseId (definitions c.engine.databaseId nameSpace before id) e ∧
        (databaseOf e ∈ (definitions c.engine.databaseId nameSpace before id).map databaseOf ∨
          Meets (Repeated c.engine.databaseId) (keysIn e.children)) := by
    simp [Clashes, hid]
  have hplace := placeOf_eq c hid
  rw [matchesDatabase_eq, map_precedence (h id) e] at hplace
  rw [hclashes, hadd, run_addStatement]
  rcases verdict c (definitions c.engine.databaseId nameSpace before id) e with ⟨hsuits, hafter⟩ |
    ⟨hsuits, hshadowed, hw, hprecedence, hafter⟩ | ⟨hrepeated, hw, hprecedence⟩ | ⟨hconsidered, hnew, hbefore, hafter⟩
  · have hnot : ¬ Considered c.engine.databaseId (definitions c.engine.databaseId nameSpace before id) e := fun h => by simp [h.1] at hsuits
    rw [if_neg (by rw [hsuits]; decide)] at hplace
    rw [hplace]
    exact .inr ⟨fun h => hnot h.1, 0, c, rfl, rfl, h.pass hid hnot hafter⟩
  · have hnot : ¬ Considered c.engine.databaseId (definitions c.engine.databaseId nameSpace before id) e := fun h => h.2 hshadowed
    rw [if_pos hsuits, hw, Option.map_some, hprecedence] at hplace
    rw [hplace]
    exact .inr ⟨fun h => hnot h.1, 0, c, rfl, rfl, h.pass hid hnot hafter⟩
  · rw [if_pos hrepeated.1.1, hw, Option.map_some, hprecedence] at hplace
    rw [hplace]
    exact .inl ⟨⟨hrepeated.1, .inl hrepeated.2⟩, id, c, rfl⟩
  · have htake : c.placeOf nameSpace e = .ok (some id) := by
      rw [hplace, if_pos hconsidered.1]
      cases hwinner : winner c.engine.databaseId (definitions c.engine.databaseId nameSpace before id) with
      | none => rfl
      | some w => rw [Option.map_some, hbefore w hwinner]
    rw [htake]
    -- Only now are its keys looked at, so that those of a variant that is passed over may be repeated.
    rcases chooseKey_meets c ((e.attribute? "id").getD "") [] e.children with ⟨hmeets, hkey⟩ | ⟨hmeets, hkey⟩
    · have hparts : c.partsOf e = .error (.compile (.duplicateStatement ((e.attribute? "id").getD "" ++ selectKeySuffix))) := by
        rw [partsOf, htype, except_ok_bind]
        exact congrArg (fun key => key.mapError Error.compile >>= fun key => .ok (type, key)) hkey
      rw [hparts]
      exact .inl ⟨⟨hconsidered, .inr hmeets⟩, _, _, rfl⟩
    · have hparts : c.partsOf e = .ok (type, winner c.engine.databaseId (keysIn e.children)) := by
        rw [partsOf, htype, except_ok_bind]
        exact congrArg (fun key => key.mapError Error.compile >>= fun key => .ok (type, key)) hkey
      rw [hparts]
      exact .inr ⟨fun h => h.2.elim hnew hmeets, 1, _, rfl, (registered_engine id nameSpace kind e _).1,
        h.take hid hconsidered hafter kind type⟩

/-- Elements of which only repetition is an error: those that are registered have an id, and the types of parameters are known. -/
structure Valid (engine : Engine) (elements : List Element) : Prop where
  fragments : ∀ e ∈ elements, isFragment e = true → (e.attribute? "id").isSome
  statements : ∀ e ∈ elements, isStatement e = true → (e.attribute? "id").isSome ∧ ∃ type, parameterTypeOf engine e = .ok type

theorem valid_of_untyped {engine : Engine} {elements : List Element}
    (h : ∀ e ∈ elements, (e.attribute? "id").isSome ∧ e.attribute? "parameterType" = none) : Valid engine elements where
  fragments e he _ := (h e he).1
  statements e he _ := ⟨(h e he).1, .object, by rw [parameterTypeOf, (h e he).2]⟩

theorem addStatements_result (nameSpace : String) (e : Element) (elements : List Element) (c : Catalog) :
    (run (addStatements nameSpace (e :: elements)) c).1 =
      match run (addElement nameSpace e) c with
      | (.ok added, d) => (run (addStatements nameSpace elements) d).1.map (added + ·)
      | (.error err, _) => .error err := by
  rw [addStatements_cons, run_bind]
  rcases run (addElement nameSpace e) c with ⟨err | added, d⟩
  · rfl
  · dsimp only
    rw [run_bind]
    rcases run (addStatements nameSpace elements) d with ⟨err | more, d'⟩ <;> rfl

theorem addStatements_meets {elements before : List Element} {c : Catalog}
    (hvalid : ∀ e ∈ elements, isStatement e = true → (e.attribute? "id").isSome ∧ ∃ type, parameterTypeOf c.engine e = .ok type)
    (h : StatementsFor nameSpace before c) :
    (Meets (fun first => Clashes c.engine.databaseId nameSpace (before ++ first)) (elements.filter isStatement) ∧
        ∃ id, (run (addStatements nameSpace elements) c).1 = .error (.compile (.duplicateStatement id))) ∨
      (¬ Meets (fun first => Clashes c.engine.databaseId nameSpace (before ++ first)) (elements.filter isStatement) ∧
        ∃ n, (run (addStatements nameSpace elements) c).1 = .ok n) := by
  induction elements generalizing before c with
  | nil => exact .inr ⟨meets_nil, 0, rfl⟩
  | cons e elements ih =>
    rw [List.forall_mem_cons] at hvalid
    have hresult := addStatements_result nameSpace e elements c
    cases hstatement : isStatement e with
    | true =>
      obtain ⟨hid, type, htype⟩ := hvalid.1 hstatement
      obtain ⟨id, hid⟩ := exists_idOf nameSpace hid
      rw [List.filter_cons_of_pos hstatement, meets_cons, List.append_nil]
      rcases addElement_step h hstatement hid htype with ⟨hclashes, other, d, hrun⟩ | ⟨hclashes, n, d, hrun, hengine, hafter⟩
      · rw [hrun] at hresult
        exact .inl ⟨.inl hclashes, other, hresult⟩
      · have hrest := ih (hengine ▸ hvalid.2) hafter
        -- What the first element leaves is what the rest meets, so that either of them may be the first to clash.
        simp only [hengine, List.append_assoc, List.singleton_append] at hrest
        rw [hrun] at hresult
        rcases hrest with ⟨hmeets, other, hmore⟩ | ⟨hmeets, more, hmore⟩
        · exact .inl ⟨.inr hmeets, other, hresult.trans (congrArg (Except.map (n + ·)) hmore)⟩
        · exact .inr ⟨fun h => h.elim hclashes hmeets, n + more, hresult.trans (congrArg (Except.map (n + ·)) hmore)⟩
    | false =>
      rw [addElement_skips hstatement] at hresult
      rw [List.filter_cons_of_neg (by simp [hstatement])]
      rcases ih hvalid.2 h with ⟨hmeets, other, hmore⟩ | ⟨hmeets, more, hmore⟩
      · exact .inl ⟨hmeets, other, hresult.trans (congrArg (Except.map (0 + ·)) hmore)⟩
      · exact .inr ⟨hmeets, 0 + more, hresult.trans (congrArg (Except.map (0 + ·)) hmore)⟩

/-! ## A mapper -/

/-- A call for a catalog without any fragments or statements. -/
theorem addMapper_meets {text : String} {root : Element} (hfragments : c.fragments = []) (hstatements : c.statements = [])
    (hread : readMapper text = .ok (nameSpace, root)) (hvalid : Valid c.engine root.elements) :
    ((Meets (FragmentRepeated c.engine.databaseId nameSpace) (root.elements.filter isFragment) ∨
        Meets (Clashes c.engine.databaseId nameSpace) (root.elements.filter isStatement)) ∧
        ∃ id, (run (addMapper text) c).1 = .error (.compile (.duplicateStatement id))) ∨
      (¬ (Meets (FragmentRepeated c.engine.databaseId nameSpace) (root.elements.filter isFragment) ∨
        Meets (Clashes c.engine.databaseId nameSpace) (root.elements.filter isStatement)) ∧
        ∃ n, (run (addMapper text) c).1 = .ok n) := by
  have hnone : FragmentsOf nameSpace [] c :=
    ⟨by rw [hfragments]; exact List.Pairwise.nil, fun id => by rw [hfragments]; rfl⟩
  rw [run_addMapper, hread]
  dsimp only
  rw [run_bind]
  rcases @addFragments_meets nameSpace root.elements hvalid.fragments [] c hnone with
    ⟨hmeets, id, d, hrun⟩ | ⟨hmeets, fragments, hrun, -⟩
  · exact .inl ⟨.inl hmeets, id, by rw [hrun]⟩
  · have hempty : StatementsFor nameSpace [] { c with fragments } := fun id => by
      change (Dict.get? c.statements id).map _ = _
      rw [hstatements]
      rfl
    rw [hrun]
    rcases @addStatements_meets nameSpace root.elements [] { c with fragments } hvalid.statements hempty with
      ⟨hclashes, id, hmore⟩ | ⟨hclashes, n, hmore⟩
    · exact .inl ⟨.inr hclashes, id, hmore⟩
    · exact .inr ⟨fun h => h.elim hmeets hclashes, n, hmore⟩

section Doubles

variable {elements : List Element}

/-- Two of the elements have one id and are for one database, which is the configured one or none in particular. -/
def Doubled (configured : Option String) (nameSpace : String) (elements : List Element) : Prop :=
  Meets (fun before e => suits configured e = true ∧ variantKey nameSpace e ∈ before.map (variantKey nameSpace)) elements

/-- Two keys of the statement are for one database. -/
def KeysDoubled (configured : Option String) (e : Element) : Prop :=
  Meets (fun before key => suits configured key = true ∧ databaseOf key ∈ before.map databaseOf) (keysIn e.children)

/-- Two fragments, two statements or two keys of one statement are for one database. -/
def Doubles (configured : Option String) (nameSpace : String) (elements : List Element) : Prop :=
  Doubled configured nameSpace (elements.filter isFragment) ∨ Doubled configured nameSpace (elements.filter isStatement) ∨
    ∃ e ∈ elements.filter isStatement, suits configured e = true ∧ KeysDoubled configured e

/-- No variant for no database in particular stands after one for the configured database. -/
structure Unshadowed (configured : Option String) (nameSpace : String) (elements : List Element) : Prop where
  fragments : ¬ Meets (fun before e => ∃ id, idOf nameSpace e = some id ∧ Shadowed configured (variants nameSpace id before) e)
    (elements.filter isFragment)
  statements : ¬ Meets (fun before e => ∃ id, idOf nameSpace e = some id ∧ Shadowed configured (variants nameSpace id before) e)
    (elements.filter isStatement)
  keys : ∀ e ∈ elements.filter isStatement, ¬ Meets (Shadowed configured) (keysIn e.children)

/-- What is rejected for a repeated definition has one. -/
theorem doubles_of_meets (hfree : ∀ e ∈ elements.filter isStatement, ∀ id, idOf nameSpace e = some id → ¬ IsKeyId id)
    (h : Meets (FragmentRepeated configured nameSpace) (elements.filter isFragment) ∨
      Meets (Clashes configured nameSpace) (elements.filter isStatement)) : Doubles configured nameSpace elements := by
  rcases h with h | ⟨before, e, rest, hsplit, id, hid, hconsidered, hclash⟩
  · refine .inl (h.imp fun before e rest hsplit hrepeated => ?_)
    obtain ⟨id, hid, hrepeated⟩ := hrepeated
    exact ⟨hrepeated.1.1, (mem_variantKeys hid).2 hrepeated.2⟩
  · have hmem : e ∈ elements.filter isStatement := by simp [hsplit]
    rw [definitions_eq_variants configured nameSpace before (hfree e hmem id hid)] at hclash
    rcases hclash with hclash | hclash
    · exact .inr (.inl ⟨before, e, rest, hsplit, hconsidered.1, (mem_variantKeys hid).2 hclash⟩)
    · exact .inr (.inr ⟨e, hmem, hconsidered.1, hclash.imp fun _ _ _ _ h => ⟨h.1.1, h.2⟩⟩)

/-- Where nothing is shadowed, every repeated definition is rejected. -/
theorem meets_of_doubles {engine : Engine} (hvalid : Valid engine elements)
    (hfree : ∀ e ∈ elements.filter isStatement, ∀ id, idOf nameSpace e = some id → ¬ IsKeyId id)
    (hshadowed : Unshadowed configured nameSpace elements) (h : Doubles configured nameSpace elements) :
    Meets (FragmentRepeated configured nameSpace) (elements.filter isFragment) ∨
      Meets (Clashes configured nameSpace) (elements.filter isStatement) := by
  have hstatement {e : Element} (he : e ∈ elements.filter isStatement) :
      ∃ id, idOf nameSpace e = some id ∧
        ∀ before rest, elements.filter isStatement = before ++ e :: rest → suits configured e = true →
          definitions configured nameSpace before id = variants nameSpace id before ∧
            Considered configured (definitions configured nameSpace before id) e := by
    obtain ⟨hmem, hstatement⟩ := List.mem_filter.1 he
    obtain ⟨id, hid⟩ := exists_idOf nameSpace (hvalid.statements e hmem hstatement).1
    refine ⟨id, hid, fun before rest hsplit hsuits => ?_⟩
    have hvariants := definitions_eq_variants configured nameSpace before (hfree e he id hid)
    refine ⟨hvariants, hsuits, fun h => hshadowed.statements ⟨before, e, rest, hsplit, id, hid, ?_⟩⟩
    rwa [← hvariants]
  rcases h with h | ⟨before, e, rest, hsplit, hsuits, hkey⟩ | ⟨e, he, hsuits, hkeys⟩
  · -- A fragment is repeated.
    refine .inl (h.imp fun before e rest hsplit hdoubled => ?_)
    obtain ⟨hmem, hfragment⟩ := List.mem_filter.1 (show e ∈ elements.filter isFragment by simp [hsplit])
    obtain ⟨id, hid⟩ := exists_idOf nameSpace (hvalid.fragments e hmem hfragment)
    have hconsidered : Considered configured (variants nameSpace id before) e :=
      ⟨hdoubled.1, fun h => hshadowed.fragments ⟨before, e, rest, hsplit, id, hid, h⟩⟩
    exact ⟨id, hid, hconsidered, (mem_variantKeys hid).1 hdoubled.2⟩
  · -- A statement is repeated.
    obtain ⟨id, hid, hall⟩ := hstatement (show e ∈ elements.filter isStatement by simp [hsplit])
    obtain ⟨hvariants, hconsidered⟩ := hall before rest hsplit hsuits
    refine .inr ⟨before, e, rest, hsplit, id, hid, hconsidered, .inl ?_⟩
    rw [hvariants]
    exact (mem_variantKeys hid).1 hkey
  · -- A key is repeated within one statement.
    obtain ⟨before, rest, hsplit⟩ := List.append_of_mem he
    obtain ⟨id, hid, hall⟩ := hstatement he
    have hrepeated : Meets (Repeated configured) (keysIn e.children) := hkeys.imp fun first key more hkey h =>
      ⟨⟨h.1, fun hshadow => hshadowed.keys e he ⟨first, key, more, hkey, hshadow⟩⟩, h.2⟩
    exact .inr ⟨before, e, rest, hsplit, id, hid, (hall before rest hsplit hsuits).2, .inr hrepeated⟩

end Doubles

theorem ofConfig_bare {config : Config} (hc : Catalog.ofConfig config = .ok c) : c.fragments = [] ∧ c.statements = [] := by
  obtain ⟨engine, -, rfl⟩ := except_map_ok.1 hc
  exact ⟨rfl, rfl⟩

/-- A mapper is rejected for a repeated definition exactly if a fragment, a statement or a key that is not shadowed is for the same
database as one before it under its id. So where the ids are none of keys, there is a repeated definition whenever it is rejected
for one, and it is rejected whenever there is one and nothing is shadowed. -/
theorem addMapper_duplicates {config : Config} (hc : Catalog.ofConfig config = .ok c) {text : String} {root : Element}
    (hread : readMapper text = .ok (nameSpace, root)) (hvalid : Valid c.engine root.elements) :
    ((∃ id, (run (addMapper text) c).1 = .error (.compile (.duplicateStatement id))) ↔
      Meets (FragmentRepeated config.databaseId nameSpace) (root.elements.filter isFragment) ∨
        Meets (Clashes config.databaseId nameSpace) (root.elements.filter isStatement)) ∧
    ((∃ id, (run (addMapper text) c).1 = .error (.compile (.duplicateStatement id))) ∨ ∃ n, (run (addMapper text) c).1 = .ok n) ∧
    ((∀ e ∈ root.elements.filter isStatement, ∀ id, idOf nameSpace e = some id → ¬ IsKeyId id) →
      ((∃ id, (run (addMapper text) c).1 = .error (.compile (.duplicateStatement id))) →
        Doubles config.databaseId nameSpace root.elements) ∧
      (Unshadowed config.databaseId nameSpace root.elements → Doubles config.databaseId nameSpace root.elements →
        ∃ id, (run (addMapper text) c).1 = .error (.compile (.duplicateStatement id)))) := by
  have houtcome := addMapper_meets (ofConfig_bare hc).1 (ofConfig_bare hc).2 hread hvalid
  rw [ofConfig_databaseId hc] at houtcome
  have hiff : (∃ id, (run (addMapper text) c).1 = .error (.compile (.duplicateStatement id))) ↔
      Meets (FragmentRepeated config.databaseId nameSpace) (root.elements.filter isFragment) ∨
        Meets (Clashes config.databaseId nameSpace) (root.elements.filter isStatement) := by
    rcases houtcome with ⟨hmeets, herror⟩ | ⟨hmeets, n, hok⟩
    · exact iff_of_true herror hmeets
    · refine iff_of_false ?_ hmeets
      rintro ⟨id, herror⟩
      rw [hok] at herror
      cases herror
  refine ⟨hiff, houtcome.imp And.right And.right, fun hfree => ⟨fun herror => doubles_of_meets hfree (hiff.1 herror), ?_⟩⟩
  exact fun hshadowed hdoubles => hiff.2 (meets_of_doubles hvalid hfree hshadowed hdoubles)

/-- Two variants for the configured database, with a fragment between them. -/
theorem addMapper_duplicates_apart :
    ∃ (c : Catalog) (config : Config) (text : String) (root : Element), config = { Config.initial with databaseId := some "pg" } ∧
      Catalog.ofConfig config = .ok c ∧
      text = "<mapper namespace=\"a\"><insert id=\"x\" databaseId=\"pg\"/><sql id=\"y\"/><insert id=\"a.x\" databaseId=\"pg\"/></mapper>" ∧
      readMapper text = .ok ("a", root) ∧ Valid c.engine root.elements ∧
      ((∃ id, (run (addMapper text) c).1 = .error (.compile (.duplicateStatement id))) ↔
        Meets (FragmentRepeated config.databaseId "a") (root.elements.filter isFragment) ∨
          Meets (Clashes config.databaseId "a") (root.elements.filter isStatement)) ∧
      ((∃ id, (run (addMapper text) c).1 = .error (.compile (.duplicateStatement id))) ∨ ∃ n, (run (addMapper text) c).1 = .ok n) ∧
      ((∀ e ∈ root.elements.filter isStatement, ∀ id, idOf "a" e = some id → ¬ IsKeyId id) →
        ((∃ id, (run (addMapper text) c).1 = .error (.compile (.duplicateStatement id))) →
          Doubles config.databaseId "a" root.elements) ∧
        (Unshadowed config.databaseId "a" root.elements → Doubles config.databaseId "a" root.elements →
          ∃ id, (run (addMapper text) c).1 = .error (.compile (.duplicateStatement id)))) := by
  let first : Element := ⟨"insert", [("id", "x"), ("databaseId", "pg")], []⟩
  let between : Element := ⟨"sql", [("id", "y")], []⟩
  let second : Element := ⟨"insert", [("id", "a.x"), ("databaseId", "pg")], []⟩
  let root : Element := ⟨"mapper", [("namespace", "a")], [first.toContent, between.toContent, second.toContent]⟩
  let text := "<mapper namespace=\"a\"><insert id=\"x\" databaseId=\"pg\"/><sql id=\"y\"/><insert id=\"a.x\" databaseId=\"pg\"/></mapper>"
  have hread : (readMapper text).toOption = some ("a", root) := by decide +kernel
  have hvalid (engine : Engine) : Valid engine root.elements := valid_of_untyped (by decide)
  have hc := @ofConfig_without_types { Config.initial with databaseId := some "pg" } rfl rfl
  exact ⟨_, _, text, root, rfl, hc, rfl, toOption_eq_some.1 hread, hvalid _,
    addMapper_duplicates hc (toOption_eq_some.1 hread) (hvalid _)⟩

/-- Two statements for no database in particular, with one for the configured database between them, are no error. If it stands
after them they are one. -/
theorem shadowed_repeat_accepted :
    ∃ (c : Catalog) (text other : String) (root : Element),
      Catalog.ofConfig { Config.initial with databaseId := some "pg" } = .ok c ∧
      text = "<mapper namespace=\"a\"><insert id=\"x\">1</insert><insert id=\"x\" databaseId=\"pg\"/><insert id=\"x\"/></mapper>" ∧
      other = "<mapper namespace=\"a\"><insert id=\"x\">1</insert><insert id=\"x\"/><insert id=\"x\" databaseId=\"pg\"/></mapper>" ∧
      readMapper text = .ok ("a", root) ∧ Valid c.engine root.elements ∧
      Doubled (some "pg") "a" (root.elements.filter isStatement) ∧ (run (addMapper text) c).1 = .ok 2 ∧
      ∃ id, (run (addMapper other) c).1 = .error (.compile (.duplicateStatement id)) := by
  let first : Element := ⟨"insert", [("id", "x")], [.text "1"]⟩
  let specific : Element := ⟨"insert", [("id", "x"), ("databaseId", "pg")], []⟩
  let second : Element := ⟨"insert", [("id", "x")], []⟩
  let root : Element := ⟨"mapper", [("namespace", "a")], [first.toContent, specific.toContent, second.toContent]⟩
  let reordered : Element := ⟨"mapper", [("namespace", "a")], [first.toContent, second.toContent, specific.toContent]⟩
  let text := "<mapper namespace=\"a\"><insert id=\"x\">1</insert><insert id=\"x\" databaseId=\"pg\"/><insert id=\"x\"/></mapper>"
  let other := "<mapper namespace=\"a\"><insert id=\"x\">1</insert><insert id=\"x\"/><insert id=\"x\" databaseId=\"pg\"/></mapper>"
  have hread : (readMapper text).toOption = some ("a", root) := by decide +kernel
  have hreordered : (readMapper other).toOption = some ("a", reordered) := by decide +kernel
  have hvalid (engine : Engine) : Valid engine root.elements := valid_of_untyped (by decide)
  have hvalid' (engine : Engine) : Valid engine reordered.elements := valid_of_untyped (by decide)
  have hc := @ofConfig_without_types { Config.initial with databaseId := some "pg" } rfl rfl
  have hclash : Meets (Clashes (some "pg") "a") (reordered.elements.filter isStatement) :=
    ⟨[first], second, [specific], rfl, "a.x", by decide, by decide, .inl (by decide)⟩
  refine ⟨_, text, other, root, hc, rfl, rfl, toOption_eq_some.1 hread, hvalid _,
    ⟨[first, specific], second, [], rfl, by decide, by decide⟩, toOption_eq_some.1 (by decide +kernel), ?_⟩
  rcases addMapper_meets (ofConfig_bare hc).1 (ofConfig_bare hc).2 (toOption_eq_some.1 hreordered) (hvalid' _) with
    ⟨-, herror⟩ | ⟨hmeets, -⟩
  · exact herror
  · exact absurd (.inr hclash) hmeets

end Catalog

end SqlTemplate
