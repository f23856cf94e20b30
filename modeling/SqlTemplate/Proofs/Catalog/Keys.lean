import SqlTemplate.Proofs.Catalog.History
import SqlTemplate.Proofs.Catalog.Loading

/-! # Statements of keys

A statement that generates a key refers to the statement of the key by its id. The two are registered together, and the old
statement of the key is removed before. An element that is rejected in between leaves a reference to nothing.
-/

namespace SqlTemplate

open SqlTemplate.Computation

namespace Catalog

variable {c : Catalog}

theorem suffixed_ne (id : String) : id ++ selectKeySuffix ≠ id := by
  intro h
  have hlength := congrArg String.length h
  rw [String.length_append] at hlength
  have hsuffix : 0 < selectKeySuffix.length := by decide
  omega

theorem suffixed_inj {id other : String} : id ++ selectKeySuffix = other ++ selectKeySuffix ↔ id = other :=
  String.append_left_inj _

/-- The reference to a key in the statement that is registered under the id. -/
def keyOf? (c : Catalog) (id : String) : Option SelectKey := (Dict.get? c.statements id).bind (·.selectKey)

/-- References are the ids of their own statements with the suffix. -/
def Named (c : Catalog) : Prop := ∀ id k, c.keyOf? id = some k → k.statementId = id ++ selectKeySuffix

/-- If the statement under the id has a reference, it is to a statement that is registered. -/
def Keyed (c : Catalog) (id : String) : Prop :=
  ∀ k, c.keyOf? id = some k → (Dict.get? c.statements k.statementId).isSome

/-! ## One element -/

theorem keyOf?_remove (id other : String) :
    (c.remove id).keyOf? other = if other = id then none else c.keyOf? other := by
  unfold keyOf? remove
  rw [Dict.get?_erase]
  split <;> rfl

section Registered

variable (id nameSpace : String) (kind : StatementKind) (element : Element) (parts : ValueType × Option Element)

theorem get?_registered (other : String) :
    Dict.get? (c.registered id nameSpace kind element parts).statements other =
      if other = id then some (statementOf id nameSpace kind parts.1 parts.2 element)
      else if other = id ++ selectKeySuffix then parts.2.map (keyStatement id nameSpace parts.1)
      else Dict.get? c.statements other := by
  obtain ⟨type, key⟩ := parts
  have hstatement : (statementOf id nameSpace kind type key element).id = id := rfl
  rw [registered, put, Dict.get?_insert, hstatement]
  cases key with
  | none =>
    rw [rekeyed, remove, Dict.get?_erase]
    rfl
  | some key =>
    have hkey : (keyStatement id nameSpace type key).id = id ++ selectKeySuffix := rfl
    rw [rekeyed, put, Dict.get?_insert, hkey, remove, Dict.get?_erase]
    split_ifs <;> rfl

theorem keyOf?_registered (other : String) :
    (c.registered id nameSpace kind element parts).keyOf? other =
      if other = id then parts.2.map (keyOf id) else if other = id ++ selectKeySuffix then none else c.keyOf? other := by
  rw [keyOf?, get?_registered]
  split_ifs
  · rfl
  · cases parts.2 <;> rfl
  · rfl

theorem Named.registered (h : c.Named) : (c.registered id nameSpace kind element parts).Named := by
  intro other k hk
  rw [keyOf?_registered] at hk
  split_ifs at hk with hother
  · obtain ⟨key, -, rfl⟩ := Option.map_eq_some_iff.1 hk
    rw [hother]
    rfl
  · exact h other k hk

/-- A statement and the statement of its key are registered together, and no other reference is touched. -/
theorem Keyed.registered (hnamed : c.Named) {other : String} (h : c.Keyed other) :
    (c.registered id nameSpace kind element parts).Keyed other := by
  intro k hk
  have hname := hnamed.registered id nameSpace kind element parts other k hk
  rw [keyOf?_registered] at hk
  rw [hname, get?_registered]
  split_ifs at hk with hother
  · subst hother
    obtain ⟨key, hkey, -⟩ := Option.map_eq_some_iff.1 hk
    rw [if_neg (suffixed_ne _), if_pos rfl, hkey]
    rfl
  · -- The new statement may be the one referred to. The new key is not, since only the new statement refers to it.
    split_ifs with hid hsuffix
    · rfl
    · exact absurd (suffixed_inj.1 hsuffix) hother
    · rw [← hname]
      exact h k hk

end Registered

theorem Named.remove (h : c.Named) (id : String) : (c.remove id).Named := by
  intro other k hk
  rw [keyOf?_remove] at hk
  split_ifs at hk
  exact h other k hk

theorem Keyed.remove (hnamed : c.Named) {id other : String} (hne : other ≠ id) (h : c.Keyed other) :
    (c.remove (id ++ selectKeySuffix)).Keyed other := by
  intro k hk
  rw [keyOf?_remove] at hk
  split_ifs at hk
  rw [Catalog.remove, Dict.get?_erase, hnamed other k hk, if_neg (suffixed_inj.not.2 hne), ← hnamed other k hk]
  exact h k hk

/-! ## A call -/

theorem Named.addElement (h : c.Named) (nameSpace : String) (element : Element) :
    (run (addElement nameSpace element) c).2.Named := by
  rcases hrun : run (Catalog.addElement nameSpace element) c with ⟨e | n, d⟩
  · rcases addElement_error hrun with ⟨-, rfl⟩ | ⟨id, -, -, rfl⟩
    · exact h
    · exact h.remove _
  · rcases addElement_ok hrun with rfl | ⟨id, kind, parts, -, -, rfl⟩
    · exact h
    · exact h.registered _ _ _ _ _

theorem Keyed.addElement {nameSpace id : String} {element : Element} {d : Catalog} {n : Nat} (hnamed : c.Named) (h : c.Keyed id)
    (hrun : run (addElement nameSpace element) c = (.ok n, d)) : d.Keyed id := by
  rcases addElement_ok hrun with rfl | ⟨_, kind, parts, -, -, rfl⟩
  · exact h
  · exact h.registered _ _ _ _ _ hnamed

theorem addStatements_keyed {nameSpace : String} {elements : List Element} {d : Catalog} {n : Nat} (hnamed : c.Named)
    (h : run (addStatements nameSpace elements) c = (.ok n, d)) : d.Named ∧ ∀ id, c.Keyed id → d.Keyed id := by
  induction elements generalizing c n with
  | nil =>
    cases h
    exact ⟨hnamed, fun _ h => h⟩
  | cons element elements ih =>
    obtain ⟨added, more, m, hfirst, hmore, -⟩ := addStatements_cons_ok.1 h
    have hnamed' := hnamed.addElement nameSpace element
    rw [hfirst] at hnamed'
    obtain ⟨hd, hkeyed⟩ := ih hnamed' hmore
    exact ⟨hd, fun id hid => hkeyed id (hid.addElement hnamed hfirst)⟩

theorem SameStatements.keyOf? {d : Catalog} (h : SameStatements c d) : c.keyOf? = d.keyOf? := by
  funext id
  unfold Catalog.keyOf?
  rw [h]

theorem SameStatements.named {d : Catalog} (h : SameStatements c d) (hc : c.Named) : d.Named := by
  unfold Named
  rw [← h.keyOf?]
  exact hc

theorem SameStatements.keyed {d : Catalog} (h : SameStatements c d) {id : String} (hc : c.Keyed id) : d.Keyed id := by
  unfold Keyed
  rw [← h.keyOf?, ← h]
  exact hc

theorem StopsAtStatement.keyed {nameSpace : String} {elements : List Element} {element : Element} {e : Error} {m : Catalog}
    (h : c.StopsAtStatement nameSpace elements element e m) (hnamed : c.Named) :
    m.Named ∧ ∀ id, c.Keyed id → m.Keyed id := by
  obtain ⟨before, rest, all, n, -, hfragments, hbefore, -⟩ := h
  have hsame := addFragments_statements nameSpace elements c
  rw [hfragments] at hsame
  obtain ⟨hm, hkeyed⟩ := addStatements_keyed (hsame.named hnamed) hbefore
  exact ⟨hm, fun id hid => hkeyed id (hsame.keyed hid)⟩

/-- The call is rejected at an element that was to take the place of the statement under the id, which has a reference. -/
def Unkeys (c : Catalog) (text id : String) : Prop :=
  ∃ nameSpace root element e m, readMapper text = .ok (nameSpace, root) ∧
    c.StopsAtStatement nameSpace root.elements element e m ∧ m.placeOf nameSpace element = .ok (some id) ∧
    (m.keyOf? id).isSome

theorem addMapper_keyed (hnamed : c.Named) (text : String) :
    (run (addMapper text) c).2.Named ∧
      ∀ id, c.Keyed id → (run (addMapper text) c).2.Keyed id ∨ c.Unkeys text id := by
  rcases hrun : run (addMapper text) c with ⟨e | n, d⟩
  · rcases addMapper_error hrun with ⟨-, rfl⟩ | ⟨nameSpace, root, hread, hfragment | ⟨element, m, hstops, helement⟩⟩
    · exact ⟨hnamed, fun id hid => .inl hid⟩
    · obtain ⟨before, -, -, -, -, hbefore, -⟩ := hfragment
      have hsame := addFragments_statements nameSpace before c
      rw [hbefore] at hsame
      exact ⟨hsame.named hnamed, fun id hid => .inl (hsame.keyed hid)⟩
    · obtain ⟨hm, hkeyed⟩ := hstops.keyed hnamed
      have hd := hm.addElement nameSpace element
      rw [helement] at hd
      refine ⟨hd, fun id hid => ?_⟩
      rcases addElement_error helement with ⟨-, rfl⟩ | ⟨place, hplace, -, rfl⟩
      · exact .inl (hkeyed id hid)
      · -- The key of the rejected element is gone. Only the statement with the same id refers to it.
        by_cases hid' : id = place
        · subst hid'
          cases hkey : m.keyOf? id with
          | none =>
            left
            intro k hk
            rw [keyOf?_remove, if_neg (suffixed_ne id).symm, hkey] at hk
            cases hk
          | some k => exact .inr ⟨nameSpace, root, element, e, m, hread, hstops, hplace, by rw [hkey]; rfl⟩
        · exact .inl ((hkeyed id hid).remove hm hid')
  · obtain ⟨nameSpace, root, all, -, hfragments, hstatements⟩ := addMapper_ok hrun
    have hsame := addFragments_statements nameSpace root.elements c
    rw [hfragments] at hsame
    obtain ⟨hd, hkeyed⟩ := addStatements_keyed (hsame.named hnamed) hstatements
    exact ⟨hd, fun id hid => .inl (hkeyed id (hsame.keyed hid))⟩

/-- Such a call leaves the reference to nothing behind. -/
theorem Unkeys.not_keyed {text id : String} (h : c.Unkeys text id) (hnamed : c.Named) :
    ¬ (run (addMapper text) c).2.Keyed id := by
  obtain ⟨nameSpace, root, element, e, m, hread, hstops, hplace, hkey⟩ := h
  have hm := (hstops.keyed hnamed).1
  obtain ⟨d, hd⟩ : ∃ d, run (addElement nameSpace element) m = (.error e, d) := ⟨_, Prod.ext hstops.rejects rfl⟩
  rw [hstops.run_addMapper hread, hd]
  rcases addElement_error hd with ⟨hfailed, -⟩ | ⟨place, hplace', -, rfl⟩
  · rw [hplace] at hfailed
    cases hfailed
  · obtain rfl : place = id := by simpa [hplace] using hplace'.symm
    obtain ⟨k, hk⟩ := Option.isSome_iff_exists.1 hkey
    intro hkeyed
    -- The statement is still there with its reference, and only what it refers to has been removed.
    have hgone := hkeyed k (by rw [keyOf?_remove, if_neg (suffixed_ne place).symm, hk])
    rw [hm place k hk, Catalog.remove, Dict.get?_erase, if_pos rfl] at hgone
    cases hgone

/-- Without a configured database no statement takes the place of another. -/
theorem not_unkeys_of_databaseId (h : c.engine.databaseId = none) (text id : String) : ¬ c.Unkeys text id := by
  rintro ⟨nameSpace, root, element, e, m, -, ⟨before, rest, all, n, -, hfragments, hbefore, -⟩, hplace, hkey⟩
  obtain ⟨k, hk⟩ := Option.isSome_iff_exists.1 hkey
  obtain ⟨previous, hprevious, -⟩ := Option.bind_eq_some_iff.1 hk
  have hall := (addFragments_loads nameSpace root.elements c).later.engine
  have hm := (addStatements_loads nameSpace before all).later.engine
  rw [hfragments] at hall
  rw [hbefore] at hm
  have hsome := (placeOf_replaces hplace hprevious).2.2
  dsimp only at hall hm
  rw [← hm, ← hall, h] at hsome
  cases hsome

/-! ## A run -/

theorem apply_keyed (hnamed : c.Named) (call : Call) :
    (call.apply c).Named ∧
      ∀ id, c.Keyed id → (call.apply c).Keyed id ∨ ∃ text, call = .add text ∧ c.Unkeys text id := by
  cases hadd : call.isAdd with
  | false =>
    have hsame : SameStatements c (call.apply c) := (call.apply_compiles hadd c).same.statements
    exact ⟨hsame.named hnamed, fun id hid => .inl (hsame.keyed hid)⟩
  | true =>
    cases call with
    | add text =>
      obtain ⟨hd, hkeyed⟩ := addMapper_keyed hnamed text
      exact ⟨hd, fun id hid => (hkeyed id hid).imp_right fun h => ⟨text, rfl, h⟩⟩
    | _ => cases hadd

theorem after_keyed (hnamed : c.Named) (hkeyed : ∀ id, c.Keyed id) (calls : List Call) :
    (c.after calls).Named ∧ ∀ id, (c.after calls).Keyed id ∨
      ∃ before text rest, calls = before ++ .add text :: rest ∧ (c.after before).Unkeys text id := by
  induction calls using List.reverseRecOn with
  | nil => exact ⟨hnamed, fun id => .inl (hkeyed id)⟩
  | append_singleton calls call ih =>
    rw [after_concat]
    obtain ⟨hcalls, ih⟩ := ih
    obtain ⟨hd, hstep⟩ := apply_keyed hcalls call
    refine ⟨hd, fun id => ?_⟩
    rcases ih id with hid | ⟨before, text, rest, rfl, hunkeys⟩
    · refine (hstep id hid).imp_right ?_
      rintro ⟨text, rfl, hunkeys⟩
      exact ⟨calls, text, [], rfl, hunkeys⟩
    · exact .inr ⟨before, text, rest ++ [call], by simp, hunkeys⟩

/-- After any run, whatever its calls answered, the statement of a key is registered if the reference to it is, unless a call
was rejected at an element that was to take the place of the statement with the reference. Every such call leaves a reference to
nothing. -/
theorem keys_registered (config : Config) {c : Catalog} (hc : Catalog.ofConfig config = .ok c) (calls : List Call) :
    (∀ id s k, Dict.get? (c.after calls).statements id = some s → s.selectKey = some k →
      (∃ t, (c.after calls).statement k.statementId = .ok t ∧ t.id = k.statementId) ∨
        ∃ before text rest, calls = before ++ .add text :: rest ∧ (c.after before).Unkeys text id) ∧
      ∀ before text rest id, calls = before ++ .add text :: rest → (c.after before).Unkeys text id →
        ¬ (c.after (before ++ [.add text])).Keyed id := by
  have hindexed := (ofConfig_empty hc).1
  have hempty (id : String) : c.keyOf? id = none := by
    obtain ⟨engine, -, rfl⟩ := except_map_ok.1 hc
    rfl
  have hnamed : c.Named := fun id k hk => by simp [hempty] at hk
  have hkeyed (id : String) : c.Keyed id := fun k hk => by simp [hempty] at hk
  constructor
  · intro id s k hs hk
    refine ((after_keyed hnamed hkeyed calls).2 id).imp_left fun hid => ?_
    obtain ⟨t, ht⟩ := Option.isSome_iff_exists.1 (hid k (by rw [keyOf?, hs]; exact hk))
    refine ⟨t, ?_, (after_indexed hindexed calls).keyed _ t ht⟩
    rw [Catalog.statement, ht]
  · rintro before text rest id - hunkeys
    rw [after_concat]
    exact hunkeys.not_keyed (after_keyed hnamed hkeyed before).1

/-- A statement with a key, and a mapper that is rejected after it. -/
theorem keys_registered_without_database :
    ∃ c calls s k t, Catalog.ofConfig Config.initial = .ok c ∧
      calls = [.add "<mapper namespace=\"a\"><insert id=\"x\"><selectKey>1</selectKey>2</insert></mapper>",
        .add "<mapper namespace=\"a\"><insert id=\"x\" parameterType=\"Nope\">3</insert></mapper>"] ∧
      Dict.get? (c.after calls).statements "a.x" = some s ∧ s.selectKey = some k ∧
      (c.after calls).statement k.statementId = .ok t ∧ t.id = k.statementId := by
  obtain ⟨c, hc, hdatabase⟩ : ∃ c, Catalog.ofConfig Config.initial = .ok c ∧ c.engine.databaseId = none :=
    ⟨_, ofConfig_without_types rfl rfl, rfl⟩
  let calls : List Call :=
    [.add "<mapper namespace=\"a\"><insert id=\"x\"><selectKey>1</selectKey>2</insert></mapper>",
      .add "<mapper namespace=\"a\"><insert id=\"x\" parameterType=\"Nope\">3</insert></mapper>"]
  have hkey : ((c.after calls).keyOf? "a.x").isSome := by
    obtain rfl : c = _ := by simpa [hc] using @ofConfig_without_types Config.initial rfl rfl
    decide +kernel
  obtain ⟨k, hk⟩ := Option.isSome_iff_exists.1 hkey
  obtain ⟨s, hs, hsk⟩ := Option.bind_eq_some_iff.1 hk
  rcases (keys_registered Config.initial hc calls).1 "a.x" s k hs hsk with ⟨t, ht, hid⟩ | ⟨before, text, rest, -, hunkeys⟩
  · exact ⟨c, calls, s, k, t, hc, rfl, hs, hsk, ht, hid⟩
  · have hengine := (after_later c [] before).engine
    exact absurd hunkeys (not_unkeys_of_databaseId (hengine ▸ hdatabase) _ _)

/-- The old key is gone and the statement that refers to it is not. -/
theorem key_dangling :
    ∃ c d, Catalog.ofConfig { Config.initial with databaseId := some "pg" } = .ok c ∧
      d = c.after [.add "<mapper namespace=\"a\"><insert id=\"x\"><selectKey>1</selectKey>2</insert></mapper>",
        .add "<mapper namespace=\"a\"><insert id=\"x\" databaseId=\"pg\" parameterType=\"Nope\">3</insert></mapper>"] ∧
      (d.keyOf? "a.x").map (·.statementId) = some "a.x!selectKey" ∧ (d.statement "a.x!selectKey").toOption.isNone := by
  have hc := @ofConfig_without_types { Config.initial with databaseId := some "pg" } rfl rfl
  exact ⟨_, _, hc, rfl, by decide +kernel⟩

end Catalog

end SqlTemplate
