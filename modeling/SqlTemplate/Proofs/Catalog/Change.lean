import SqlTemplate.Catalog.Source
import SqlTemplate.Proofs.Catalog.Include
import SqlTemplate.Proofs.Dict
import SqlTemplate.Proofs.Engine.Steady

/-! # How calls change a catalog

Loading a mapper replaces statements and fragments and forgets what was compiled of the statements. Compiling one changes
neither and adds to what is compiled. Compiled statements are compared with what compiling the same statement afresh gives.
-/

namespace SqlTemplate

open SqlTemplate.Computation

namespace Catalog

/-- What compiling the statement gives, whatever was compiled before. -/
def fresh (c : Catalog) (s : Statement) : Except Error Source :=
  (c.expanded s).bind fun body => (run (c.engine.compile body s.parameterType) c.registry).1

/-- Statements stand under their ids, in order. -/
structure Indexed (c : Catalog) : Prop where
  sorted : Dict.Sorted c.statements
  keyed : ∀ id s, Dict.get? c.statements id = some s → s.id = id

theorem Indexed.statement {c : Catalog} (h : c.Indexed) {id : String} {s : Statement} (hs : c.statement id = .ok s) :
    Dict.get? c.statements s.id = some s := by
  unfold Catalog.statement at hs
  split at hs
  · rename_i found hfound
    cases hs
    rw [h.keyed id s hfound, hfound]
  · split at hs
    · cases hs
    · rename_i found hfound
      cases hs
      have hmem : s ∈ (Dict.values c.statements).filter fun s => s.shortId == id := by simp [hfound]
      obtain ⟨⟨key, _⟩, hentry, rfl⟩ := List.mem_map.1 (List.mem_of_mem_filter hmem)
      have hget := h.sorted.get?_of_mem hentry
      rw [h.keyed key _ hget, hget]
    · cases hs

/-! ## The same catalog but for what is compiled -/

/-- The same statements and fragments. Only what was looked up and compiled may differ. -/
structure Same (c d : Catalog) : Prop where
  engine : c.engine = d.engine
  statements : c.statements = d.statements
  fragments : c.fragments = d.fragments
  registry : c.registry.Agrees d.registry

theorem Same.refl (c : Catalog) : Same c c := ⟨rfl, rfl, rfl, .refl _⟩

theorem Same.symm {c d : Catalog} (h : Same c d) : Same d c :=
  ⟨h.engine.symm, h.statements.symm, h.fragments.symm, h.registry.symm⟩

theorem Same.trans {c d e : Catalog} (h : Same c d) (h' : Same d e) : Same c e :=
  ⟨h.engine.trans h'.engine, h.statements.trans h'.statements, h.fragments.trans h'.fragments, h.registry.trans h'.registry⟩

theorem Same.statement {c d : Catalog} (h : Same c d) (id : String) : c.statement id = d.statement id := by
  unfold Catalog.statement
  rw [h.statements]

theorem Same.fresh {c d : Catalog} (h : Same c d) (s : Statement) : c.fresh s = d.fresh s := by
  have hexpanded : c.expanded s = d.expanded s := by
    unfold expanded
    rw [h.engine, h.fragments]
  unfold Catalog.fresh
  rw [hexpanded, h.engine]
  cases d.expanded s with
  | error e => rfl
  | ok body => exact (d.engine.compile_steady body s.parameterType h.registry).1

/-! ## Later catalogs -/

/-- A variant for the configured database has taken the place of a fragment for no database in particular. -/
def Overridden (c d : Catalog) (name : String) : Prop :=
  ∃ f g, Dict.get? c.fragments name = some f ∧ Dict.get? d.fragments name = some g ∧ f.databaseId = none ∧
    g.databaseId.isSome ∧ g.databaseId = c.engine.databaseId

/-- Fragments do not go away, and only overriding changes them. -/
structure Later (c d : Catalog) : Prop where
  engine : c.engine = d.engine
  registry : c.registry.Agrees d.registry
  fragments : ∀ name f, Dict.get? c.fragments name = some f → Dict.get? d.fragments name = some f ∨ Overridden c d name

instance : IsPreorder Catalog Later where
  refl c := ⟨rfl, .refl _, fun _ _ h => .inl h⟩
  trans c d e h h' := by
    refine ⟨h.engine.trans h'.engine, h.registry.trans h'.registry, fun name f hf => ?_⟩
    rcases h.fragments name f hf with hd | ⟨_, g, hf', hd, hnone, hsome, hid⟩
    · refine (h'.fragments name f hd).imp_right ?_
      rintro ⟨_, g, hd', he, hnone, hsome, hid⟩
      obtain rfl : f = _ := by simpa [hd] using hd'
      exact ⟨f, g, hf, he, hnone, hsome, hid.trans (congrArg Engine.databaseId h.engine.symm)⟩
    · rcases h'.fragments name g hd with he | ⟨_, k, hd', -, hnone', -⟩
      · exact .inr ⟨_, g, hf', he, hnone, hsome, hid⟩
      · obtain rfl : g = _ := by simpa [hd] using hd'
        simp [hnone'] at hsome

theorem Same.later {c d : Catalog} (h : Same c d) : Later c d :=
  ⟨h.engine, h.registry, fun _ _ hf => .inl (h.fragments ▸ hf)⟩

theorem Later.expanded {c d : Catalog} (h : Later c d) {s : Statement} {body : Element} (hbody : c.expanded s = .ok body)
    (hstay : ∀ name f, Include.Reaches c.fragments s.nameSpace c.engine.substitutions s.body.children name →
      Dict.get? c.fragments name = some f → Dict.get? d.fragments name = some f) : d.expanded s = .ok body := by
  unfold Catalog.expanded at hbody ⊢
  rw [← h.engine]
  dsimp only at hbody ⊢
  cases hx : Include.expand c.fragments [] s.nameSpace c.engine.substitutions s.body.children with
  | error e =>
    rw [hx] at hbody
    cases hbody
  | ok children =>
    rw [hx] at hbody
    rw [Include.expand_mono (fun _ _ => rfl) (fun _ _ => rfl) hstay hx]
    exact hbody

/-- A statement compiles in a later catalog as before, unless a fragment that it reaches was overridden. -/
theorem Later.fresh {c d : Catalog} (h : Later c d) {s : Statement} {source : Source} (hs : c.fresh s = .ok source) :
    d.fresh s = .ok source ∨
      ∃ name, Include.Reaches c.fragments s.nameSpace c.engine.substitutions s.body.children name ∧ Overridden c d name := by
  by_cases hstay : ∀ name f, Include.Reaches c.fragments s.nameSpace c.engine.substitutions s.body.children name →
      Dict.get? c.fragments name = some f → Dict.get? d.fragments name = some f
  · left
    obtain ⟨body, hbody, hcompile⟩ := except_bind_ok.1 hs
    refine except_bind_ok.2 ⟨body, h.expanded hbody hstay, ?_⟩
    rw [← h.engine, ← hcompile]
    exact (c.engine.compile_steady body s.parameterType h.registry.symm).1
  · right
    push Not at hstay
    obtain ⟨name, f, hreaches, hf, hgone⟩ := hstay
    exact ⟨name, hreaches, (h.fragments name f hf).resolve_left hgone⟩

/-! ## Putting a mapper together -/

/-- A property of changes that is kept when they are put together. -/
structure Change.Closed (P : ∀ {α : Type}, Change α → Prop) : Prop where
  pure {α : Type} (a : α) : P (Pure.pure a : Change α)
  bind {α β : Type} {x : Change α} {f : α → Change β} : P x → (∀ a, P (f a)) → P (x >>= f)
  ofExcept {α : Type} (x : Except Error α) : P (MonadExcept.ofExcept x : Change α)

namespace Change.Closed

variable {P : ∀ {α : Type}, Change α → Prop} (h : Closed P) {nameSpace : String}

include h

theorem addFragments (hfragment : ∀ e, P (addFragment nameSpace e)) (elements : List Element) :
    P (addFragments nameSpace elements) := by
  induction elements with
  | nil => exact h.pure _
  | cons e elements ih =>
    rw [Catalog.addFragments]
    split
    · exact h.bind (hfragment e) fun _ => ih
    · exact ih

/-- Only elements whose name is that of a kind of statement matter. -/
theorem addStatements (hstatement : ∀ kind e, StatementKind.read e.name = .ok kind → P (addStatement nameSpace kind e))
    (elements : List Element) : P (addStatements nameSpace elements) := by
  induction elements with
  | nil => exact h.pure _
  | cons e elements ih =>
    rw [Catalog.addStatements]
    split
    · rename_i kind hkind
      exact h.bind (hstatement kind e hkind) fun _ => h.bind ih fun _ => h.pure _
    · exact h.bind (h.pure _) fun _ => h.bind ih fun _ => h.pure _

theorem addMapper (hfragment : ∀ nameSpace e, P (addFragment nameSpace e))
    (hstatement : ∀ nameSpace kind e, StatementKind.read e.name = .ok kind → P (addStatement nameSpace kind e)) (text : String) :
    P (addMapper text) :=
  h.bind (h.ofExcept _) fun _ => h.bind (h.addFragments (hfragment _) _) fun _ => h.addStatements (hstatement _) _

end Change.Closed

theorem moves_closed (R : Catalog → Catalog → Prop) [IsPreorder Catalog R] : Change.Closed (Moves R) := ⟨.pure, .bind, .ofExcept⟩

theorem respects_closed (R : Catalog → Catalog → Prop) : Change.Closed (Respects R) := ⟨.pure, .bind, .ofExcept⟩

/-! ## Loading -/

/-- What is compiled afterwards was compiled before, of the statement that is still there. -/
structure Loads (c d : Catalog) : Prop where
  later : Later c d
  indexed : c.Indexed → d.Indexed
  sources : ∀ id source, Dict.get? d.sources id = some source →
    Dict.get? c.sources id = some source ∧ Dict.get? d.statements id = Dict.get? c.statements id

instance : IsPreorder Catalog Loads where
  refl c := ⟨Std.Refl.refl c, id, fun _ _ h => ⟨h, rfl⟩⟩
  trans c d e h h' := by
    refine ⟨IsTrans.trans _ _ _ h.later h'.later, h'.indexed ∘ h.indexed, fun id source hs => ?_⟩
    obtain ⟨hd, hstatement'⟩ := h'.sources id source hs
    obtain ⟨hc, hstatement⟩ := h.sources id source hd
    exact ⟨hc, hstatement'.trans hstatement⟩

theorem put_loads (s : Statement) (c : Catalog) : Loads c (c.put s) := by
  refine ⟨⟨rfl, .refl _, fun _ _ h => .inl h⟩, fun h => ⟨h.sorted.insert _ _, fun id t ht => ?_⟩, fun id source hs => ?_⟩
  · rw [put, Dict.get?_insert] at ht
    split at ht
    · cases ht
      exact (‹id = s.id›).symm
    · exact h.keyed id t ht
  · rw [put, Dict.get?_erase] at hs
    split at hs
    · cases hs
    · rename_i hid
      exact ⟨hs, Dict.get?_insert_of_ne hid _ _⟩

theorem remove_loads (id : String) (c : Catalog) : Loads c (c.remove id) := by
  refine ⟨⟨rfl, .refl _, fun _ _ h => .inl h⟩, fun h => ⟨h.sorted.erase _, fun other t ht => ?_⟩, fun other source hs => ?_⟩
  · rw [remove, Dict.get?_erase] at ht
    split at ht
    · cases ht
    · exact h.keyed other t ht
  · rw [remove, Dict.get?_erase] at hs ⊢
    split at hs
    · cases hs
    · rename_i hid
      exact ⟨hs, by rw [if_neg hid]⟩

/-- A fragment is added where there is none, or takes the place of one for no database in particular. -/
theorem addFragment_loads (nameSpace : String) (element : Element) : Moves Loads (addFragment nameSpace element) := by
  have hadd (c : Catalog) (id : String) (f : Fragment)
      (h : ∀ g, Dict.get? c.fragments id = some g →
        g.databaseId = none ∧ f.databaseId.isSome ∧ f.databaseId = c.engine.databaseId) :
      Loads c { c with fragments := Dict.insert id f c.fragments } := by
    refine ⟨⟨rfl, .refl _, fun name g hg => ?_⟩, fun h => ⟨h.sorted, h.keyed⟩, fun _ _ h => ⟨h, rfl⟩⟩
    by_cases hname : name = id
    · subst hname
      exact .inr ⟨g, f, hg, Dict.get?_insert_self _ _ _, h g hg⟩
    · exact .inl ((Dict.get?_insert_of_ne hname _ _).trans hg)
  intro c
  unfold addFragment
  rw [run_bind, run_get]
  dsimp only
  rw [run_bind, run_ofExcept]
  cases (element.required "id").mapError Error.compile with
  | error e => exact Std.Refl.refl c
  | ok name =>
    dsimp only
    split
    · rename_i hmatches
      split
      · rename_i hnone
        exact hadd c _ _ fun g hg => by simp [hnone] at hg
      · rename_i previous hprevious
        -- Only in the second case the fragment is replaced; in the others it stays or is an error.
        cases hp : previous.databaseId <;> cases hn : element.attribute? "databaseId"
        · exact Std.Refl.refl c
        · refine hadd c _ _ fun g hg => ?_
          obtain rfl : previous = g := by simpa [hprevious] using hg
          rw [hn, matchesDatabase, beq_iff_eq] at hmatches
          exact ⟨hp, rfl, hmatches.symm⟩
        · exact Std.Refl.refl c
        · exact Std.Refl.refl c
    · exact Std.Refl.refl c

theorem register_loads (id nameSpace : String) (kind : StatementKind) (element : Element) :
    Moves Loads (register id nameSpace kind element) := by
  unfold register
  refine .bind (fun c => remove_loads _ c) fun _ => .bind (fun c => Std.Refl.refl c) fun c => ?_
  refine .bind (.ofExcept _) fun type => .bind (.ofExcept _) fun key => ?_
  have hlast : Moves Loads (modify (·.put (statementOf id nameSpace kind type key element)) : Change PUnit) := put_loads _
  dsimp only
  split
  · refine .bind ?_ fun _ => hlast
    exact put_loads _
  · exact hlast

theorem addStatement_loads (nameSpace : String) (kind : StatementKind) (element : Element) :
    Moves Loads (addStatement nameSpace kind element) := by
  unfold addStatement
  refine .bind (fun c => Std.Refl.refl c) fun c => .bind (.ofExcept _) fun name => ?_
  dsimp only
  split
  · split
    · exact .bind (register_loads _ _ _ _) fun _ => .pure _
    · exact .bind (register_loads _ _ _ _) fun _ => .pure _
    · exact .pure _
    · exact .throw _
  · exact .pure _

theorem addFragments_loads (nameSpace : String) (elements : List Element) : Moves Loads (addFragments nameSpace elements) :=
  (moves_closed Loads).addFragments (addFragment_loads nameSpace) elements

theorem addStatements_loads (nameSpace : String) (elements : List Element) : Moves Loads (addStatements nameSpace elements) :=
  (moves_closed Loads).addStatements (fun kind e _ => addStatement_loads nameSpace kind e) elements

theorem addMapper_loads (text : String) : Moves Loads (addMapper text) :=
  (moves_closed Loads).addMapper addFragment_loads (fun nameSpace kind e _ => addStatement_loads nameSpace kind e) text

/-! ## Loading does not look at what is compiled -/

theorem Same.matchesDatabase {c d : Catalog} (h : Same c d) : c.matchesDatabase = d.matchesDatabase := by
  funext databaseId
  unfold Catalog.matchesDatabase
  rw [h.engine]

/-- Which key is chosen depends on the configured database alone. -/
theorem chooseKey_congr {c d : Catalog} (h : c.matchesDatabase = d.matchesDatabase) (id : String) (chosen : Option Element)
    (contents : List Content) : c.chooseKey id chosen contents = d.chooseKey id chosen contents := by
  induction contents generalizing chosen with
  | nil => rfl
  | cons content contents ih =>
    unfold Catalog.chooseKey
    rw [h]
    split
    · rfl
    · rename_i heq
      cases heq
      simp only [ih]
    · rename_i heq
      cases heq
      exact ih chosen

theorem Same.put {c d : Catalog} (h : Same c d) (s : Statement) : Same (c.put s) (d.put s) :=
  ⟨h.engine, congrArg (Dict.insert s.id s) h.statements, h.fragments, h.registry⟩

theorem Same.remove {c d : Catalog} (h : Same c d) (id : String) : Same (c.remove id) (d.remove id) :=
  ⟨h.engine, congrArg (Dict.erase · id) h.statements, h.fragments, h.registry⟩

theorem addFragment_same (nameSpace : String) (element : Element) : Respects Same (addFragment nameSpace element) := by
  unfold addFragment
  refine .get fun c d h => ?_
  have hadded (id : String) (f : Fragment) : Same { c with fragments := Dict.insert id f c.fragments }
      { d with fragments := Dict.insert id f d.fragments } :=
    ⟨h.engine, h.statements, congrArg (Dict.insert id f) h.fragments, h.registry⟩
  dsimp only
  rw [run_bind, run_bind, run_ofExcept, run_ofExcept]
  cases (element.required "id").mapError Error.compile with
  | error e => exact ⟨rfl, h⟩
  | ok name =>
    simp only [h.matchesDatabase, h.fragments] at hadded ⊢
    split
    · split
      · exact ⟨rfl, hadded _ _⟩
      · split
        · exact ⟨rfl, hadded _ _⟩
        · exact ⟨rfl, h⟩
        · exact ⟨rfl, h⟩
    · exact ⟨rfl, h⟩

theorem register_same (id nameSpace : String) (kind : StatementKind) (element : Element) :
    Respects Same (register id nameSpace kind element) := by
  unfold register
  refine .bind (.modify fun _ _ h => h.remove _) fun _ => .get_eq (fun c => ?_) fun c d h => ?_
  · refine .bind (.ofExcept _) fun type => .bind (.ofExcept _) fun key => ?_
    have hlast : Respects Same (modify (·.put (statementOf id nameSpace kind type key element)) : Change PUnit) :=
      .modify fun _ _ h => h.put _
    dsimp only
    split
    · exact .bind (.modify fun _ _ h => h.put _) fun _ => hlast
    · exact hlast
  · simp only [h.engine, chooseKey_congr h.matchesDatabase]

theorem addStatement_same (nameSpace : String) (kind : StatementKind) (element : Element) :
    Respects Same (addStatement nameSpace kind element) := by
  unfold addStatement
  refine .get_eq (fun c => .bind (.ofExcept _) fun name => ?_) fun c d h => ?_
  · dsimp only
    split
    · split
      · exact .bind (register_same _ _ _ _) fun _ => .pure _
      · exact .bind (register_same _ _ _ _) fun _ => .pure _
      · exact .pure _
      · exact .throw _
    · exact .pure _
  · simp only [h.matchesDatabase, h.statements]

theorem addMapper_same (text : String) : Respects Same (addMapper text) :=
  (respects_closed Same).addMapper addFragment_same (fun nameSpace kind e _ => addStatement_same nameSpace kind e) text

end Catalog

end SqlTemplate
