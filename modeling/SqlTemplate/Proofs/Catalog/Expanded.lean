import SqlTemplate.Proofs.Catalog.Expansion
import SqlTemplate.Proofs.Catalog.Keys

/-! # Statements with their includes expanded

The element of a registered statement is no include, so that after expansion there is none in it. Expansion ends for every graph of
fragments, and tells the graphs that it rejects.
-/

namespace SqlTemplate.Catalog

open Relation SqlTemplate.Computation

variable {c : Catalog}

/-! ## The elements of statements -/

/-- The element of no statement is an include. -/
def Headed (c : Catalog) : Prop := ∀ id s, Dict.get? c.statements id = some s → s.body.name ≠ "include"

def KeepsHeads (c d : Catalog) : Prop := c.Headed → d.Headed

instance : IsPreorder Catalog KeepsHeads where
  refl _ h := h
  trans _ _ _ h h' := h' ∘ h

theorem SameStatements.keepsHeads {d : Catalog} (h : SameStatements c d) : KeepsHeads c d := by
  unfold KeepsHeads Headed
  rw [h]
  exact id

theorem remove_headed (id : String) (c : Catalog) : KeepsHeads c (c.remove id) := by
  intro h other s hs
  rw [remove, Dict.get?_erase] at hs
  split_ifs at hs
  exact h other s hs

theorem name_of_chooseKey {id : String} {chosen : Option Element} {contents : List Content} {key : Element}
    (hchosen : ∀ k ∈ chosen, k.name = "selectKey") (h : c.chooseKey id chosen contents = .ok (some key)) : key.name = "selectKey" := by
  induction contents generalizing chosen with
  | nil =>
    cases h
    exact hchosen key rfl
  | cons content contents ih =>
    have hkey (attributes : List (String × String)) (children : List Content) :
        ∀ k ∈ some (⟨"selectKey", attributes, children⟩ : Element), k.name = "selectKey" := by
      rintro _ ⟨⟩
      rfl
    unfold chooseKey at h
    split at h
    · rename_i heq
      cases heq
    · rename_i heq
      cases heq
      dsimp only at h
      split at h
      · split at h
        · exact ih (hkey _ _) h
        · split at h
          · exact ih (hkey _ _) h
          · exact ih hchosen h
          · cases h
      · exact ih hchosen h
    · rename_i heq
      cases heq
      exact ih hchosen h

theorem addStatement_headed (nameSpace : String) (kind : StatementKind) (element : Element)
    (hkind : StatementKind.read element.name = .ok kind) : Moves KeepsHeads (addStatement nameSpace kind element) := by
  have hadd : addStatement nameSpace kind element = addElement nameSpace element := by rw [addElement, hkind]
  have hname : element.name ≠ "include" := by
    intro h
    rw [h] at hkind
    cases hkind
  rw [hadd]
  intro c
  rcases hrun : run (addElement nameSpace element) c with ⟨e | n, d⟩
  · rcases addElement_error hrun with ⟨-, rfl⟩ | ⟨id, -, -, rfl⟩
    · exact Std.Refl.refl d
    · exact remove_headed _ c
  · rcases addElement_ok hrun with rfl | ⟨id, kind, ⟨type, key⟩, -, hparts, rfl⟩
    · exact Std.Refl.refl d
    · -- Three statements may stand under an id afterwards: the new one, its key and one from before.
      intro h other s hs
      rw [get?_registered] at hs
      split_ifs at hs
      · cases hs
        exact hname
      · obtain ⟨k, hk, rfl⟩ := Option.map_eq_some_iff.1 hs
        obtain ⟨_, -, hparts⟩ := except_bind_ok.1 hparts
        obtain ⟨_, hchoose, heq⟩ := except_bind_ok.1 hparts
        cases heq
        dsimp only at hk
        rw [hk] at hchoose
        have hkey : k.name = "selectKey" := name_of_chooseKey (by simp) (mapError_ok.1 hchoose)
        change k.name ≠ "include"
        rw [hkey]
        decide
      · exact h other s hs

theorem addMapper_headed (text : String) : Moves KeepsHeads (addMapper text) :=
  (moves_closed KeepsHeads).addMapper (fun nameSpace e c => (addFragment_statements nameSpace e c).keepsHeads) addStatement_headed text

theorem after_headed (h : c.Headed) (calls : List Call) : (c.after calls).Headed := by
  induction calls using List.reverseRecOn with
  | nil => exact h
  | append_singleton calls call ih =>
    rw [after_concat]
    cases hadd : call.isAdd with
    | false => exact SameStatements.keepsHeads (call.apply_compiles hadd _).same.statements ih
    | true =>
      cases call with
      | add text => exact addMapper_headed text _ ih
      | _ => cases hadd

/-! ## Expansion -/

/-- Some run comes to the catalog, in which the statement is registered. -/
def Registers (c : Catalog) (s : Statement) : Prop :=
  ∃ config start calls id, Catalog.ofConfig config = .ok start ∧ c = start.after calls ∧ Dict.get? c.statements id = some s

theorem Registers.headed {s : Statement} (h : c.Registers s) : s.body.name ≠ "include" := by
  obtain ⟨config, start, calls, id, hstart, rfl, hs⟩ := h
  have hempty : start.Headed := by
    obtain ⟨engine, -, rfl⟩ := except_map_ok.1 hstart
    intro id s hs
    cases hs
  exact after_headed hempty calls id s hs

theorem expanded_eq (c : Catalog) (s : Statement) : c.expanded s =
    ((Include.resolve c.fragments [] s.nameSpace c.engine.substitutions s.body.children).mapError Error.compile).map fun children =>
      ⟨s.body.name, s.body.attributes.map fun (key, value) => (key, Include.fill c.engine.substitutions value), children⟩ := by
  rw [expanded, Include.resolve, Include.outside_nil]

/-- Expansion recurs from a path to one that `Enters` allows, of which there is no infinite chain, whatever the graph. It leaves no
include. If the includes are in order it fails exactly where a fragment that includes itself or one that is not registered can be
come to, and the error names such a fragment, so that one that is merely included twice is no error. -/
theorem expanded_includes (c : Catalog) (s : Statement) :
    (WellFounded (Include.Enters c.fragments) ∧ ∀ path nameSpace known contents,
      Include.resolve c.fragments path nameSpace known contents =
        Include.expandContents (Include.enter c.fragments path nameSpace known) known contents) ∧
    (∀ e, c.expanded s = .ok e →
      "include" ∉ Include.namesIn e.children ∧ (c.Registers s → "include" ∉ Include.namesOf e.toContent)) ∧
    ((∀ e ∈ Include.includesIn s.body.children, Include.Plain e) → Include.PlainFragments c.fragments →
      ((∃ err, c.expanded s = .error err) ↔ ∃ id, Include.Reachable c.fragments s.nameSpace s.body.children id ∧
        (TransGen (Include.Includes c.fragments) id id ∨ Dict.get? c.fragments id = none)) ∧
      ∀ err, c.expanded s = .error err → ∃ id, Include.Reachable c.fragments s.nameSpace s.body.children id ∧
        (err = .compile (.circularInclude id) ∧ TransGen (Include.Includes c.fragments) id id ∨
          err = .compile (.unknownFragment id) ∧ Dict.get? c.fragments id = none)) := by
  refine ⟨⟨Include.enters_wellFounded _, Include.resolve_eq _⟩, fun e he => ?_, fun hbody hfragments => ?_⟩
  · obtain ⟨children, hchildren, rfl⟩ := except_map_ok.1 ((expanded_eq c s).symm.trans he)
    have hnames := Include.resolve_names (mapError_ok.1 hchildren)
    refine ⟨hnames, fun hs => ?_⟩
    rw [Element.toContent, Include.namesOf, List.mem_cons, not_or]
    exact ⟨hs.headed.symm, hnames⟩
  · -- The fragment that the error names gives one direction of the equivalence as well.
    have herror : ∀ err, c.expanded s = .error err → ∃ id, Include.Reachable c.fragments s.nameSpace s.body.children id ∧
        (err = .compile (.circularInclude id) ∧ TransGen (Include.Includes c.fragments) id id ∨
          err = .compile (.unknownFragment id) ∧ Dict.get? c.fragments id = none) := by
      intro err h
      rw [expanded_eq] at h
      cases hresolve : Include.resolve c.fragments [] s.nameSpace c.engine.substitutions s.body.children with
      | ok children =>
        rw [hresolve] at h
        cases h
      | error e =>
        rw [hresolve] at h
        cases h
        obtain ⟨id, hreach, hbad⟩ := Include.resolve_error hfragments hbody (by simp) hresolve
        exact ⟨id, hreach, hbad.imp (.imp_left (congrArg _)) (.imp_left (congrArg _))⟩
    refine ⟨⟨fun ⟨err, h⟩ => ?_, fun ⟨id, hreach, hbad⟩ => ?_⟩, herror⟩
    · obtain ⟨id, hreach, hbad⟩ := herror err h
      exact ⟨id, hreach, hbad.imp And.right And.right⟩
    · cases h : c.expanded s with
      | error err => exact ⟨err, rfl⟩
      | ok e =>
        obtain ⟨children, hchildren, -⟩ := except_map_ok.1 ((expanded_eq c s).symm.trans h)
        -- An expansion that succeeds has gone through all that can be come to, so that none of it is missing or on a cycle.
        obtain ⟨-, hsome, hcycle⟩ := Include.resolve_reachable hfragments hbody (mapError_ok.1 hchildren) hreach
        rcases hbad with hbad | hnone
        · exact absurd hbad hcycle
        · rw [hnone] at hsome
          cases hsome

/-- Two fragments include a third, and the statement includes the two. -/
theorem expanded_includes_shared :
    ∃ (c : Catalog) (s : Statement), (∀ e ∈ Include.includesIn s.body.children, Include.Plain e) ∧
      Include.PlainFragments c.fragments ∧ (c.expanded s).toOption.isSome ∧
      ¬ ∃ id, Include.Reachable c.fragments s.nameSpace s.body.children id ∧
        (TransGen (Include.Includes c.fragments) id id ∨ Dict.get? c.fragments id = none) := by
  let includeOf (id : String) : Element := ⟨"include", [("refid", id)], []⟩
  let fragment (contents : List Content) : Fragment := ⟨"a", none, ⟨"sql", [], contents⟩⟩
  let c : Catalog := ⟨⟨[], none, .question, false, []⟩, .builtin .name,
    [("a.b", fragment [(includeOf "d").toContent]), ("a.c", fragment [(includeOf "d").toContent]), ("a.d", fragment [.text "1"])], [], []⟩
  let s : Statement := ⟨"a.x", "a", .select, none, .object, none, none, none,
    ⟨"select", [], [(includeOf "b").toContent, (includeOf "c").toContent]⟩⟩
  have hplain (id : String) (h : ¬ substitution.opening <:+: id.toList) : Include.Plain (includeOf id) :=
    ⟨⟨id, rfl, h⟩, by simp [includeOf, Include.declarations, Element.elements], by simp [includeOf, Include.declarations, Element.elements]⟩
  have hbody : ∀ e ∈ Include.includesIn s.body.children, Include.Plain e := by
    intro e he
    have hcases : e = includeOf "b" ∨ e = includeOf "c" := by
      simpa [s, includeOf, Element.toContent, Include.includesIn, Include.includesOf] using he
    rcases hcases with rfl | rfl
    · exact hplain "b" (by decide)
    · exact hplain "c" (by decide)
  have hfragments : Include.PlainFragments c.fragments := by
    intro id f hf e he
    have hcases : f = fragment [(includeOf "d").toContent] ∨ f = fragment [.text "1"] := by
      simp only [c, Dict.get?_cons, Dict.get?_nil] at hf
      split_ifs at hf <;> cases hf
      exacts [.inl rfl, .inl rfl, .inr rfl]
    rcases hcases with rfl | rfl
    · have he : e = includeOf "d" := by
        simpa [fragment, includeOf, Element.toContent, Include.includesIn, Include.includesOf] using he
      exact he ▸ hplain "d" (by decide)
    · simp [fragment, Include.includesIn, Include.includesOf] at he
  have hok : (c.expanded s).toOption.isSome := by decide +kernel
  refine ⟨c, s, hbody, hfragments, hok, fun hbad => ?_⟩
  obtain ⟨err, herror⟩ := ((expanded_includes c s).2.2 hbody hfragments).1.2 hbad
  rw [herror] at hok
  cases hok

end SqlTemplate.Catalog
