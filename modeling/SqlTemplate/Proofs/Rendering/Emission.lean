import SqlTemplate.Mapping.Basic
import SqlTemplate.Proofs.Rendering.Renaming
import SqlTemplate.Proofs.Rendering.Turn
import SqlTemplate.Proofs.Token.Tidy

/-! # What a rendering emits

A rendering emits placeholders, each in the scope of the loops around it. The text of a placeholder changes as the loops are
left, but it always leads to the values of its scope.
-/

namespace SqlTemplate

open Text

/-- A placeholder that a rendering wrote. -/
structure Emission where
  /-- What stands between the delimiters in the template. -/
  content : String
  /-- The variables of the loops around it, the innermost first. -/
  scope : Bindings

namespace Emission

def within (outer : Bindings) (em : Emission) : Emission := { em with scope := em.scope ++ outer }

/-- The value of a path. Its root is a variable of the innermost loop that has one of this name, and otherwise the path leads
through the parameter. -/
def value? (em : Emission) (parameter : Value) (path : Path) : Option Value :=
  match Dict.get? em.scope path.root with
  | some v => v.select? path.rest
  | none => BoundSql.find? ⟨⟨"", []⟩, []⟩ parameter path

/-- The placeholders of a text that no loop has renamed. -/
def ofText (s : String) : List Emission := (placeholder.tokens s).map fun content => ⟨content, []⟩

end Emission

namespace Loop

/-- The variables of a turn. The item hides an index of the same name. -/
def scope (l : Loop) (key value : Value) : Bindings :=
  (l.item.map (·, value)).toList ++ (l.index.map (·, key)).toList

/-- What a loop emits around and between its turns. -/
def surround (l : Loop) (turns : List (List Emission)) : List Emission :=
  if turns.isEmpty then []
  else
    Emission.ofText (l.opening.getD "") ++ (Emission.ofText (l.separator.getD "")).intercalate turns ++
      Emission.ofText (l.closing.getD "")

end Loop

namespace Node

mutual

/-- What a template of texts, sequences and loops emits from a context. A turn that writes nothing but blanks leaves no trace. -/
def emissions : Node → Context → List Emission
  | .text s, _ => Emission.ofText s
  | .sequence nodes, c => emissionsAll nodes c
  | .loop l body, c =>
    match l.entriesAt c with
    | some entries =>
      l.surround (((l.turns body.render entries c).filter fun t => !isBlankString t.text).map fun t =>
        (body.emissions t.start).map (·.within (l.scope t.key t.value)))
    | none => []
  | _, _ => []

def emissionsAll : List Node → Context → List Emission
  | [], _ => []
  | n :: nodes, c => n.emissions c ++ emissionsAll nodes (Computation.run n.render c).2

end

end Node

/-! ## Templates of loops -/

/-- The placeholder holds a path with blanks around it. A comma would end the path, and only some blanks end a name. -/
def isPathContent (content : String) : Bool :=
  let path := trim content.toList
  (Path.readSteps? path).isSome && !path.contains ',' && isVariable (Path.parse content).root &&
    endsName ((trimStart content.toList).dropWhile isNameChar)

/-- Every opening delimiter is escaped or closed. -/
def isClosed (cs : List Char) : Bool :=
  (placeholder.lexemes cs).all fun
    | .text run => (breakOn ['#', '{'] run).isNone
    | _ => true

theorem closed_of_isClosed {cs : List Char} (h : isClosed cs = true) : Closed cs := by
  unfold isClosed at h
  rw [List.all_eq_true] at h
  exact fun run hrun => Option.isNone_iff_eq_none.1 (h _ hrun)

/-- The text is complete in itself, and its placeholders are paths. -/
def isLoopText (s : String) : Bool :=
  isClosed s.toList && (placeholder.tokens s).all isPathContent &&
    (trim s.toList).getLast?.all fun c => c != '\\' && c != '#'

namespace Node

mutual

/-- Texts, sequences and loops over named variables, to any depth. -/
def isLoopTemplate : Node → Bool
  | .text s => isLoopText s
  | .sequence nodes => allLoopTemplates nodes
  | .loop l body =>
    l.names.all isVariable && [l.opening, l.separator, l.closing].all (fun s => isLoopText (s.getD "")) && body.isLoopTemplate
  | _ => false

def allLoopTemplates : List Node → Bool
  | [] => true
  | n :: nodes => n.isLoopTemplate && allLoopTemplates nodes

end

end Node

/-! ## Placeholders that lead to their values -/

/-- The steps of a path, and blanks after them. -/
structure PathEnd (cs : List Char) : Prop where
  parts : ∃ steps after, cs = steps ++ after ∧ Stepped steps ∧ ',' ∉ steps ∧ ∀ c ∈ after, isBlank c = true
  ends : endsName cs = true

/-- The name stands for the root of a path, by an alias with a number in the range if the root is a variable. -/
def Refers (lo hi : Nat) (b scope : Bindings) (root name : String) : Prop :=
  match Dict.get? scope root with
  | some v => ∃ n, lo ≤ n ∧ n < hi ∧ name = aliasName root n ∧ Dict.get? b name = some v
  | none => name = root

/-- The content is that of the emission up to its root, which may be an alias by now. -/
inductive Carries (lo hi : Nat) (b : Bindings) : List Char → Emission → Prop
  | intro {front front' tail : List Char} {root name : String} {em : Emission} (hroot : isVariable root = true)
    (hfront : ∀ c ∈ front, isBlank c = true) (hfront' : ∀ c ∈ front', isBlank c = true)
    (hcontent : em.content.toList = front' ++ (root.toList ++ unescape tail)) (htail : PathEnd (unescape tail))
    (hrefers : Refers lo hi b em.scope root name) : Carries lo hi b (front ++ (name.toList ++ tail)) em

theorem spelled_of_isPathContent {content : String} (h : isPathContent content = true) :
    ∃ name tail, Spelled content.toList name tail ∧ ',' ∉ tail ∧ isVariable (.ofList name) = true ∧
      endsName ((trimStart content.toList).dropWhile isNameChar) = true := by
  obtain ⟨front, after, hfront, hafter, heq⟩ := eq_trim content.toList
  unfold isPathContent at h
  simp only [Bool.and_eq_true, Bool.not_eq_true', List.contains_eq_mem, decide_eq_false_iff_not] at h
  obtain ⟨⟨⟨hread, hcomma⟩, hroot⟩, hends⟩ := h
  generalize trim content.toList = path at *
  have hsplit : path.takeWhile isNameChar ++ path.dropWhile isNameChar = path := List.takeWhile_append_dropWhile
  unfold Path.readSteps? at hread
  dsimp only at hread
  split_ifs at hread with hempty
  · cases hread
  · rw [Option.isSome_map] at hread
    have hspelled : Spelled content.toList (path.takeWhile isNameChar) (path.dropWhile isNameChar) :=
      ⟨⟨front, after, hfront, hafter, by rw [hsplit, heq, List.append_assoc]⟩, by simpa using hempty,
        fun c hc => List.mem_takeWhile_imp hc, .of_readAll? hread⟩
    have hparse := hspelled.parse_eq
    rw [String.ofList_toList] at hparse
    rw [hparse] at hroot
    exact ⟨_, _, hspelled, fun hmem => hcomma ((List.dropWhile_suffix _).subset hmem), hroot, hends⟩

theorem root_of_isPathContent {content : String} (h : isPathContent content = true) :
    ∃ front root rest, isVariable root = true ∧ PathEnd rest ∧ (∀ c ∈ front, isBlank c = true) ∧
      content.toList = front ++ (root.toList ++ rest) := by
  obtain ⟨name, tail, hspelled, hcomma, hroot, hends⟩ := spelled_of_isPathContent h
  obtain ⟨front, after, hfront, hafter, heq⟩ := hspelled.around
  have hcontent : content.toList = front ++ (name ++ (tail ++ after)) := by simpa using heq
  rw [hcontent, trimStart_name hfront hspelled.hne hspelled.hname,
    (run_split hspelled.hname (hspelled.stepped.append_blanks hafter)).2] at hends
  refine ⟨front, .ofList name, tail ++ after, hroot, ⟨⟨tail, after, rfl, hspelled.stepped, hcomma, hafter⟩, hends⟩, hfront, ?_⟩
  rw [hcontent, String.toList_ofList]

/-- A front without delimiters is the same with and without escapes. -/
theorem unescape_front {raw a u : List Char} (hslash : '\\' ∉ a) (hclosing : '}' ∉ a) (h : unescape raw = a ++ u) :
    ∃ tail, raw = a ++ tail ∧ unescape tail = u := by
  induction a generalizing raw with
  | nil => exact ⟨raw, rfl, h⟩
  | cons c a ih =>
    rw [List.mem_cons, not_or] at hslash hclosing
    cases raw with
    | nil => cases h
    | cons d raw =>
      -- An escape would give a closing delimiter, which is not in the front.
      by_cases hescape : d = '\\' ∧ raw.head? = some '}'
      · obtain ⟨rfl, hhead⟩ := hescape
        obtain ⟨rest, rfl⟩ := List.head?_eq_some_iff.1 hhead
        rw [unescape, List.cons_append, List.cons.injEq] at h
        exact absurd h.1 hclosing.1
      · rw [unescape_cons fun hd hhead => hescape ⟨hd, hhead⟩, List.cons_append, List.cons.injEq] at h
        obtain ⟨rfl, h⟩ := h
        obtain ⟨tail, rfl, htail⟩ := ih hslash.2 hclosing.2 h
        exact ⟨tail, rfl, htail⟩

theorem carries_of_text {lo hi : Nat} {b : Bindings} {raw : List Char} (h : isPathContent (Glyph.meant raw) = true) :
    Carries lo hi b raw ⟨Glyph.meant raw, []⟩ := by
  obtain ⟨front, root, rest, hroot, hrest, hfront, heq⟩ := root_of_isPathContent h
  have hname := (isVariable_iff.1 hroot).2.1
  have heq' : unescape raw = front ++ root.toList ++ rest := by
    rw [← String.toList_ofList (l := unescape raw), List.append_assoc]
    exact heq
  obtain ⟨hslash, hclosing⟩ := plain_notMem (a := front ++ root.toList) fun c hc => (List.mem_append.1 hc).imp (hfront c) (hname c)
  obtain ⟨tail, rfl, rfl⟩ := unescape_front hslash hclosing heq'
  rw [List.append_assoc] at heq ⊢
  exact .intro hroot hfront hfront heq hrest rfl

theorem text_carries {s : String} (h : isLoopText s = true) :
    Glyph.Tidy (Glyph.read s.toList) ∧ ∀ lo hi b,
      List.Forall₂ (Carries lo hi b) (Glyph.raws (Glyph.read s.toList)) (Emission.ofText s) := by
  unfold isLoopText at h
  simp only [Bool.and_eq_true, List.all_eq_true] at h
  obtain ⟨⟨hclosed, hpaths⟩, hending⟩ := h
  refine ⟨⟨Glyph.sound_read (closed_of_isClosed hclosed), Glyph.endsWell_of_trim fun c hc => ?_⟩, fun lo hi b => ?_⟩
  · rw [Glyph.text_read] at hc
    rw [Option.mem_def.1 hc, Option.all_some, Bool.and_eq_true, bne_iff_ne, bne_iff_ne] at hending
    exact hending.symm
  · rw [Emission.ofText, Glyph.tokens_eq, List.map_map, List.forall₂_map_right_iff, List.forall₂_same]
    intro raw hraw
    refine carries_of_text (hpaths _ ?_)
    rw [Glyph.tokens_eq]
    exact List.mem_map_of_mem hraw

namespace Carries

variable {lo hi : Nat} {b : Bindings} {raw : List Char} {em : Emission}

/-- Later states carry an emission as well, as long as the aliases in the range are kept. -/
theorem mono (h : Carries lo hi b raw em) {lo' hi' : Nat} {b' : Bindings} (hlo : lo' ≤ lo) (hhi : hi ≤ hi')
    (hb : ∀ x n, n < hi → Dict.get? b' (aliasName x n) = Dict.get? b (aliasName x n)) : Carries lo' hi' b' raw em := by
  obtain ⟨hroot, hfront, hfront', hcontent, htail, hrefers⟩ := h
  refine .intro hroot hfront hfront' hcontent htail ?_
  unfold Refers at hrefers ⊢
  split at hrefers
  · obtain ⟨n, hn, hn', rfl, hget⟩ := hrefers
    exact ⟨n, by omega, by omega, rfl, (hb _ n hn').trans hget⟩
  · exact hrefers

theorem unscoped (h : Carries lo hi b raw em) (hem : em.scope = []) {b' : Bindings} : Carries lo hi b' raw em := by
  obtain ⟨hroot, hfront, hfront', hcontent, htail, hrefers⟩ := h
  refine .intro hroot hfront hfront' hcontent htail ?_
  unfold Refers at hrefers ⊢
  rwa [hem] at hrefers ⊢

end Carries

/-! ## Leaving a turn -/

theorem Loop.get?_scope (l : Loop) (key value : Value) (x : String) :
    Dict.get? (l.scope key value) x =
      if l.item = some x then some value else if l.index = some x then some key else none := by
  have hone (v : Value) (name : String) : Dict.get? [(name, v)] x = if name = x then some v else none := by
    rw [Dict.get?_cons, Dict.get?_nil, if_congr eq_comm rfl rfl]
  unfold Loop.scope
  rw [Dict.get?, List.lookup_append]
  change (Dict.get? _ x).or (Dict.get? _ x) = _
  cases l.item with
  | none => cases l.index <;> simp [hone, Dict.get?_nil]
  | some item =>
    by_cases hitem : item = x
    · simp [hone, hitem]
    · cases l.index <;> simp [hone, hitem, Dict.get?_nil]

theorem Loop.mem_names {l : Loop} {x : String} : x ∈ l.names ↔ l.item = some x ∨ l.index = some x := by
  simp [Loop.names]

theorem Loop.isSome_get?_scope (l : Loop) {key value : Value} {x : String} :
    (Dict.get? (l.scope key value) x).isSome = true ↔ x ∈ l.names := by
  rw [l.get?_scope, l.mem_names]
  split_ifs <;> simp_all

theorem Refers.name_ok {lo hi : Nat} {b scope : Bindings} {root name : String} (hroot : isVariable root = true)
    (h : Refers lo hi b scope root name) : name.toList ≠ [] ∧ ∀ c ∈ name.toList, isNameChar c = true := by
  obtain ⟨hne, hnames, -⟩ := isVariable_iff.1 hroot
  unfold Refers at h
  split at h
  · obtain ⟨n, -, -, rfl, -⟩ := h
    exact ⟨aliasName_ne_nil root n, aliasName_names hnames n⟩
  · exact h ▸ ⟨hne, hnames⟩

/-- The content after the placeholders of one turn are renamed. -/
def Loop.renamed (l : Loop) (n : Nat) (raw : List Char) : List Char := (renameContent l.names n (.ofList raw)).toList

theorem Loop.renamed_eq {lo hi n : Nat} {b scope : Bindings} {front tail : List Char} {root name : String}
    (hroot : isVariable root = true) (hfront : ∀ c ∈ front, isBlank c = true) (htail : PathEnd (unescape tail))
    (hrefers : Refers lo hi b scope root name) {l : Loop} (hnames : ∀ x ∈ l.names, isVariable x = true) :
    l.renamed n (front ++ (name.toList ++ tail)) =
      if name ∈ l.names then (aliasName name n).toList ++ tail else front ++ (name.toList ++ tail) := by
  obtain ⟨hne, hname⟩ := hrefers.name_ok hroot
  -- The name ends in the same place whether or not the escapes after it are resolved.
  have hrooted : Rooted (front ++ (name.toList ++ tail)) name.toList tail :=
    ⟨⟨front, hfront, rfl⟩, hne, hname, endsName_unescape tail ▸ htail.ends⟩
  rw [Loop.renamed, hrooted.renameContent_eq fun x hx => (isVariable_iff.1 (hnames x hx)).2.1, String.ofList_toList]
  split_ifs
  · rw [String.toList_append, String.toList_ofList]
  · rw [String.toList_ofList]

/-- Renaming makes the variables of a turn a part of the scope. -/
theorem Carries.renamed {n hi : Nat} {b : Bindings} {raw : List Char} {em : Emission} (h : Carries (n + 1) hi b raw em)
    {l : Loop} (hnames : ∀ x ∈ l.names, isVariable x = true) {key value : Value} (hn : n < hi)
    (hscope : ∀ x v, Dict.get? (l.scope key value) x = some v → Dict.get? b (aliasName x n) = some v) :
    Carries n hi b (l.renamed n raw) (em.within (l.scope key value)) := by
  obtain ⟨hroot, hfront, hfront', hcontent, htail, hrefers⟩ := h
  rename_i front front' tail root name
  rw [Loop.renamed_eq hroot hfront htail hrefers hnames]
  have hlookup : Dict.get? (em.within (l.scope key value)).scope root =
      (Dict.get? em.scope root).or (Dict.get? (l.scope key value) root) := List.lookup_append
  unfold Refers at hrefers
  -- The name is one of the loop only if nothing renamed it before, since no name of a loop is an alias.
  split_ifs with hmem
  · rw [← List.nil_append (_ ++ tail)]
    refine .intro hroot (by simp) hfront' hcontent htail ?_
    split at hrefers
    · obtain ⟨k, -, -, rfl, -⟩ := hrefers
      exact absurd rfl (ne_aliasName (hnames _ hmem) root k)
    · rename_i hnone
      subst hrefers
      obtain ⟨v, hv⟩ := Option.isSome_iff_exists.1 (l.isSome_get?_scope.2 hmem)
      unfold Refers
      rw [hlookup, hnone, Option.none_or, hv]
      exact ⟨n, le_refl n, hn, rfl, hscope _ v hv⟩
  · refine .intro hroot hfront hfront' hcontent htail ?_
    unfold Refers
    rw [hlookup]
    split at hrefers
    · rename_i v hsome
      obtain ⟨k, hk, hk', rfl, hget⟩ := hrefers
      rw [hsome]
      exact ⟨k, by omega, hk', rfl, hget⟩
    · rename_i hnone
      subst hrefers
      have hfree : Dict.get? (l.scope key value) name = none :=
        Option.not_isSome_iff_eq_none.1 (mt l.isSome_get?_scope.1 hmem)
      rw [hnone, Option.none_or, hfree]

end SqlTemplate
