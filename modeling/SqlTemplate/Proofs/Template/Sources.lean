import Mathlib.Data.List.Count
import SqlTemplate.Proofs.Catalog.Expansion
import SqlTemplate.Proofs.Computation
import SqlTemplate.Template.Build

/-! # What a template keeps of its tree

A template has a node for every run of text that is not blank, and the tree has only elements that have a place where they stand.
The body of a binding is passed over: nothing of it is kept, and nothing in it is checked.
-/

namespace SqlTemplate

open SqlTemplate.Computation SqlTemplate.Include

/-! ## Trees -/

namespace Content

mutual

/-- The runs of text, however deep. -/
def textsOf : Content → List String
  | .text s | .cdata s => [s]
  | .element _ _ children => textsIn children

def textsIn : List Content → List String
  | [] => []
  | c :: contents => textsOf c ++ textsIn contents

end

mutual

/-- What stands in the bodies of bindings. -/
def passedOver : Content → List Content
  | .text _ | .cdata _ => []
  | .element name _ children => if name = "bind" then children else passedOverIn children

def passedOverIn : List Content → List Content
  | [] => []
  | c :: contents => passedOver c ++ passedOverIn contents

end

theorem textsIn_append (first rest : List Content) : textsIn (first ++ rest) = textsIn first ++ textsIn rest := by
  induction first with
  | nil => rfl
  | cons c first ih => rw [List.cons_append, textsIn, textsIn, ih, List.append_assoc]

end Content

/-! ## Nodes -/

namespace Node

mutual

/-- The runs of text that the node was built from. -/
def sources : Node → List String
  | .text s | .substituted s _ => [s]
  | .bind _ _ => []
  | .conditional _ body | .clause _ _ body | .loop _ body => body.sources
  | .choose whens otherwise => sourcesWhens whens ++ sourcesOtherwise otherwise
  | .sequence nodes => sourcesAll nodes

def sourcesAll : List Node → List String
  | [] => []
  | n :: nodes => n.sources ++ sourcesAll nodes

def sourcesWhens : List (Expr × Node) → List String
  | [] => []
  | (_, body) :: whens => body.sources ++ sourcesWhens whens

def sourcesOtherwise : Option Node → List String
  | none => []
  | some body => body.sources

end

theorem sourcesWhens_concat (whens : List (Expr × Node)) (test : Expr) (body : Node) :
    sourcesWhens (whens ++ [(test, body)]) = sourcesWhens whens ++ body.sources := by
  induction whens with
  | nil => simp [sourcesWhens]
  | cons w whens ih => rw [List.cons_append, sourcesWhens, sourcesWhens, ih, List.append_assoc]

end Node

namespace Template

open Content

/-! ## Places -/

/-- The tags around a body that is part of the template. -/
def bodyTags : List String := ["if", "trim", "where", "set", "foreach", "script"]

inductive Place
  /-- The body of a statement or of an element in it. -/
  | body
  /-- The inside of a choice. -/
  | choice

/-- Contents that may stand at a place. -/
inductive Placed : Place → List Content → Prop
  | nil {place : Place} : Placed place []
  | text {s : String} {more : List Content} (hmore : Placed .body more) : Placed .body (.text s :: more)
  | cdata {s : String} {more : List Content} (hmore : Placed .body more) : Placed .body (.cdata s :: more)
  | tag {name : String} {attributes : List (String × String)} {children more : List Content} (hname : name ∈ bodyTags)
    (hchildren : Placed .body children) (hmore : Placed .body more) : Placed .body (.element name attributes children :: more)
  | bind {attributes : List (String × String)} {children more : List Content} (hmore : Placed .body more) :
    Placed .body (.element "bind" attributes children :: more)
  | choose {attributes : List (String × String)} {children more : List Content} (hchildren : Placed .choice children)
    (hone : (children.filterMap asElement?).countP (·.name = "otherwise") ≤ 1) (hmore : Placed .body more) :
    Placed .body (.element "choose" attributes children :: more)
  | blank {s : String} {more : List Content} (hs : Text.isBlankString s = true) (hmore : Placed .choice more) :
    Placed .choice (.text s :: more)
  | branch {name : String} {attributes : List (String × String)} {children more : List Content}
    (hname : name = "when" ∨ name = "otherwise") (hchildren : Placed .body children) (hmore : Placed .choice more) :
    Placed .choice (.element name attributes children :: more)

/-! ## One element -/

section Inversion

variable {name : String} {attributes : List (String × String)} {children contents : List Content} {found b : Branches} {n : Node}

theorem ofContents_cons_ok {c : Content} {nodes : List Node} :
    ofContents (c :: contents) = .ok nodes ↔ ∃ n rest, ofContent c = .ok n ∧ ofContents contents = .ok rest ∧ nodes = n :: rest := by
  rw [ofContents, except_bind_ok]
  constructor
  · rintro ⟨n, hn, h⟩
    obtain ⟨rest, hrest, h⟩ := except_bind_ok.1 h
    cases h
    exact ⟨n, rest, hn, hrest, rfl⟩
  · rintro ⟨n, rest, hn, hrest, rfl⟩
    exact ⟨n, hn, except_bind_ok.2 ⟨rest, hrest, rfl⟩⟩

theorem ofText_sources {s : String} (h : ofText s = .ok n) : n.sources = [s] := by
  rw [ofText] at h
  split at h
  · obtain ⟨segments, -, rfl⟩ := except_map_ok.1 h
    rfl
  · cases h
    rfl

/-- An element is read as a body, as a choice, or for its attributes alone. -/
theorem ofContent_element_ok (h : ofContent (.element name attributes children) = .ok n) :
    (name ∈ bodyTags ∧ ∃ nodes, ofContents children = .ok nodes ∧ n.sources = Node.sourcesAll nodes) ∨
      (name = "choose" ∧ ∃ b, ofBranches ⟨[], none⟩ children = .ok b ∧ n = .choose b.whens b.otherwise) ∨
      (name = "bind" ∧ n.sources = []) := by
  unfold ofContent at h
  dsimp only at h
  split at h
  · obtain ⟨nodes, hnodes, rfl⟩ := except_map_ok.1 h
    exact .inl ⟨by decide, nodes, hnodes, rfl⟩
  · obtain ⟨test, -, h⟩ := except_bind_ok.1 h
    obtain ⟨nodes, hnodes, h⟩ := except_bind_ok.1 h
    cases h
    exact .inl ⟨by decide, nodes, hnodes, rfl⟩
  · obtain ⟨b, hb, rfl⟩ := except_map_ok.1 h
    exact .inr (.inl ⟨rfl, b, hb, rfl⟩)
  · obtain ⟨nodes, hnodes, rfl⟩ := except_map_ok.1 h
    exact .inl ⟨by decide, nodes, hnodes, rfl⟩
  · obtain ⟨nodes, hnodes, rfl⟩ := except_map_ok.1 h
    exact .inl ⟨by decide, nodes, hnodes, rfl⟩
  · obtain ⟨nodes, hnodes, rfl⟩ := except_map_ok.1 h
    exact .inl ⟨by decide, nodes, hnodes, rfl⟩
  · obtain ⟨l, -, h⟩ := except_bind_ok.1 h
    obtain ⟨nodes, hnodes, h⟩ := except_bind_ok.1 h
    cases h
    exact .inl ⟨by decide, nodes, hnodes, rfl⟩
  · obtain ⟨target, -, h⟩ := except_bind_ok.1 h
    obtain ⟨value, -, h⟩ := except_bind_ok.1 h
    cases h
    exact .inr (.inr ⟨rfl, rfl⟩)
  all_goals cases h

/-- A branch is read as a body, and there is at most one for when no test holds. -/
theorem ofBranches_element_ok (h : ofBranches found (.element name attributes children :: contents) = .ok b) :
    ∃ nodes next, ofContents children = .ok nodes ∧ ofBranches next contents = .ok b ∧
      ((name = "when" ∧ ∃ test, next = { found with whens := found.whens ++ [(test, .sequence nodes)] }) ∨
        (name = "otherwise" ∧ found.otherwise = none ∧ next = { found with otherwise := some (.sequence nodes) })) := by
  by_cases hwhen : name = "when"
  · subst hwhen
    rw [ofBranches] at h
    obtain ⟨test, -, h⟩ := except_bind_ok.1 h
    obtain ⟨nodes, hnodes, h⟩ := except_bind_ok.1 h
    exact ⟨nodes, _, hnodes, h, .inl ⟨rfl, test, rfl⟩⟩
  by_cases hotherwise : name = "otherwise"
  · subst hotherwise
    rw [ofBranches] at h
    split at h
    · cases h
    · rename_i hnone
      obtain ⟨nodes, hnodes, h⟩ := except_bind_ok.1 h
      exact ⟨nodes, _, hnodes, h, .inr ⟨rfl, by simpa using hnone, rfl⟩⟩
  rw [ofBranches] at h
  · split at h <;> cases h
  · exact hwhen
  · exact hotherwise

end Inversion

/-! ## Texts -/

/-- The runs that the branches were built from. -/
def Branches.sources (b : Branches) : List String := Node.sourcesWhens b.whens ++ Node.sourcesOtherwise b.otherwise

mutual

theorem count_ofContent {s : String} (hs : Text.isBlankString s = false) (c : Content) {n : Node} (h : ofContent c = .ok n) :
    (textsOf c).count s = n.sources.count s + (textsIn (passedOver c)).count s := by
  match c with
  | .text t | .cdata t =>
    rw [ofContent] at h
    simp [ofText_sources h, textsOf, textsIn, passedOver]
  | .element name attributes children =>
    rw [textsOf, passedOver]
    rcases ofContent_element_ok h with ⟨hname, nodes, hnodes, hsources⟩ | ⟨rfl, b, hb, rfl⟩ | ⟨rfl, hsources⟩
    · have hne : name ≠ "bind" := ne_of_mem_of_not_mem hname (by decide)
      rw [if_neg hne, hsources]
      exact count_ofContents hs children hnodes
    · have hbranches := count_ofBranches hs children hb
      simpa [Branches.sources, Node.sources, Node.sourcesWhens, Node.sourcesOtherwise] using hbranches
    · simp [hsources]

/-- Every run that is not blank is as often in the nodes as in the tree, less what is passed over. -/
theorem count_ofContents {s : String} (hs : Text.isBlankString s = false) (contents : List Content) {nodes : List Node}
    (h : ofContents contents = .ok nodes) :
    (textsIn contents).count s = (Node.sourcesAll nodes).count s + (textsIn (passedOverIn contents)).count s := by
  match contents with
  | [] =>
    cases h
    rfl
  | c :: contents =>
    obtain ⟨n, rest, hn, hrest, rfl⟩ := ofContents_cons_ok.1 h
    have hfirst := count_ofContent hs c hn
    have hmore := count_ofContents hs contents hrest
    simp only [textsIn, passedOverIn, Node.sourcesAll, textsIn_append, List.count_append]
    omega

theorem count_ofBranches {s : String} (hs : Text.isBlankString s = false) (contents : List Content) {found b : Branches}
    (h : ofBranches found contents = .ok b) :
    found.sources.count s + (textsIn contents).count s = b.sources.count s + (textsIn (passedOverIn contents)).count s := by
  match contents with
  | [] =>
    cases h
    rfl
  | .text t :: contents =>
    rw [ofBranches] at h
    split at h
    · rename_i ht
      have hne : t ≠ s := fun heq => by simp [heq, hs] at ht
      have hmore := count_ofBranches hs contents h
      simpa [textsIn, textsOf, passedOverIn, passedOver, List.count_cons, hne] using hmore
    · cases h
  | .cdata t :: contents => cases h
  | .element name attributes children :: contents =>
    -- What was found before is carried along, so the branch is counted on one side and added to it on the other.
    obtain ⟨nodes, next, hnodes, hnext, hfound⟩ := ofBranches_element_ok h
    have hbody := count_ofContents hs children hnodes
    have hmore := count_ofBranches hs contents hnext
    have hadded : next.sources.count s = found.sources.count s + (Node.sourcesAll nodes).count s := by
      rcases hfound with ⟨-, test, rfl⟩ | ⟨-, hnone, rfl⟩
      · simp only [Branches.sources, Node.sourcesWhens_concat, Node.sources, List.count_append]
        omega
      · simp [Branches.sources, hnone, Node.sourcesOtherwise, Node.sources]
    have hne : name ≠ "bind" := by
      rcases hfound with ⟨rfl, -⟩ | ⟨rfl, -⟩ <;> decide
    simp only [textsIn, textsOf, passedOverIn, passedOver, if_neg hne, textsIn_append, List.count_append]
    omega

end

/-! ## Order -/

/-- A second branch for when no test holds is rejected. -/
theorem countP_otherwise {contents : List Content} {found b : Branches} (h : ofBranches found contents = .ok b) :
    (contents.filterMap asElement?).countP (·.name = "otherwise") + found.otherwise.toList.length ≤ 1 := by
  induction contents generalizing found with
  | nil => cases found.otherwise <;> simp
  | cons c contents ih =>
    cases c with
    | text s =>
      rw [ofBranches] at h
      split at h
      · exact ih h
      · cases h
    | cdata s => cases h
    | element name attributes children =>
      obtain ⟨nodes, next, -, hnext, hfound⟩ := ofBranches_element_ok h
      have hmore := ih hnext
      rw [List.filterMap_cons, asElement?, List.countP_cons]
      rcases hfound with ⟨rfl, test, rfl⟩ | ⟨rfl, hnone, rfl⟩
      · simpa using hmore
      · simpa [hnone] using hmore

mutual

theorem placed_of_ofContents (contents : List Content) {nodes : List Node} (h : ofContents contents = .ok nodes) :
    Placed .body contents := by
  match contents with
  | [] => exact .nil
  | .text s :: contents =>
    obtain ⟨n, rest, -, hrest, rfl⟩ := ofContents_cons_ok.1 h
    exact .text (placed_of_ofContents contents hrest)
  | .cdata s :: contents =>
    obtain ⟨n, rest, -, hrest, rfl⟩ := ofContents_cons_ok.1 h
    exact .cdata (placed_of_ofContents contents hrest)
  | .element name attributes children :: contents =>
    obtain ⟨n, rest, hn, hrest, rfl⟩ := ofContents_cons_ok.1 h
    have hmore := placed_of_ofContents contents hrest
    rcases ofContent_element_ok hn with ⟨hname, body, hbody, -⟩ | ⟨rfl, b, hb, -⟩ | ⟨rfl, -⟩
    · exact .tag hname (placed_of_ofContents children hbody) hmore
    · exact .choose (placed_of_ofBranches children hb) (Nat.le_of_add_right_le (countP_otherwise hb)) hmore
    · exact .bind hmore

theorem placed_of_ofBranches (contents : List Content) {found b : Branches} (h : ofBranches found contents = .ok b) :
    Placed .choice contents := by
  match contents with
  | [] => exact .nil
  | .text s :: contents =>
    rw [ofBranches] at h
    split at h
    · exact .blank ‹_› (placed_of_ofBranches contents h)
    · cases h
  | .cdata s :: contents => cases h
  | .element name attributes children :: contents =>
    obtain ⟨nodes, next, hnodes, hnext, hfound⟩ := ofBranches_element_ok h
    have hname : name = "when" ∨ name = "otherwise" := hfound.imp And.left And.left
    exact .branch hname (placed_of_ofContents children hnodes) (placed_of_ofBranches contents hnext)

end

/-- Elements are known except where they are passed over. -/
def Known (contents : List Content) : Prop := ∀ name ∈ namesIn contents, name ∈ tags ∨ name ∈ namesIn (passedOverIn contents)

theorem Known.element {name : String} {attributes : List (String × String)} {children more : List Content} (hname : name ∈ tags)
    (hne : name ≠ "bind") (hchildren : Known children) (hmore : Known more) : Known (.element name attributes children :: more) := by
  intro found hfound
  simp only [namesIn, namesOf, passedOverIn, passedOver, if_neg hne, namesIn_append, List.mem_append, List.mem_cons] at hfound ⊢
  rcases hfound with (rfl | hfound) | hfound
  · exact .inl hname
  · exact (hchildren found hfound).imp_right .inl
  · exact (hmore found hfound).imp_right .inr

theorem Placed.known {place : Place} {contents : List Content} (h : Placed place contents) : Known contents := by
  have htags : ∀ name ∈ bodyTags, name ∈ tags ∧ name ≠ "bind" := by decide
  induction h with
  | nil => simp [Known, namesIn]
  | text hmore ih => exact ih
  | cdata hmore ih => exact ih
  | blank hs hmore ih => exact ih
  | tag hname hchildren hmore ihchildren ih => exact .element (htags _ hname).1 (htags _ hname).2 ihchildren ih
  | choose hchildren hone hmore ihchildren ih => exact .element (by decide) (by decide) ihchildren ih
  | branch hname hchildren hmore ihchildren ih => rcases hname with rfl | rfl <;> exact .element (by decide) (by decide) ihchildren ih
  | bind hmore ih =>
    intro found hfound
    simp only [namesIn, namesOf, passedOverIn, passedOver, if_true, namesIn_append, List.mem_append, List.mem_cons] at hfound ⊢
    rcases hfound with (rfl | hfound) | hfound
    · exact .inl (by decide)
    · exact .inr (.inl hfound)
    · exact (ih found hfound).imp_right .inr

mutual

theorem namesIn_passedOver (c : Content) : ∀ name ∈ namesIn (passedOver c), name ∈ namesOf c := by
  match c with
  | .text s | .cdata s => simp [passedOver, namesIn]
  | .element tag attributes children =>
    intro name hname
    rw [passedOver] at hname
    rw [namesOf]
    split at hname
    · exact List.mem_cons_of_mem _ hname
    · exact List.mem_cons_of_mem _ (namesIn_passedOverIn children name hname)

theorem namesIn_passedOverIn (contents : List Content) : ∀ name ∈ namesIn (passedOverIn contents), name ∈ namesIn contents := by
  match contents with
  | [] => simp [passedOverIn, namesIn]
  | c :: contents =>
    intro name hname
    rw [passedOverIn, namesIn_append, List.mem_append] at hname
    rw [namesIn, List.mem_append]
    exact hname.imp (namesIn_passedOver c name) (namesIn_passedOverIn contents name)

end

/-- All contents have a place. Every run of text that is not blank comes back from one node, and every element is known, except in the
bodies of bindings. So nothing is lost exactly if these are blank and hold no unknown element. -/
theorem ofElement_keeps {e : Element} {t : Template} (h : ofElement e = .ok t) :
    Placed .body e.children ∧
      (∀ s, Text.isBlankString s = false →
        (textsIn e.children).count s = t.root.sources.count s + (textsIn (passedOverIn e.children)).count s) ∧
      Known e.children ∧
      ((∀ s, Text.isBlankString s = false → (textsIn e.children).count s = t.root.sources.count s) ∧
          (∀ name ∈ namesIn e.children, name ∈ tags) ↔
        (∀ s ∈ textsIn (passedOverIn e.children), Text.isBlankString s = true) ∧
          ∀ name ∈ namesIn (passedOverIn e.children), name ∈ tags) := by
  obtain ⟨nodes, hnodes, rfl⟩ := except_map_ok.1 h
  have hplaced := placed_of_ofContents e.children hnodes
  have hcount (s : String) (hs : Text.isBlankString s = false) :
      (textsIn e.children).count s = (Node.sequence nodes).sources.count s + (textsIn (passedOverIn e.children)).count s :=
    count_ofContents hs e.children hnodes
  refine ⟨hplaced, hcount, hplaced.known, ⟨fun ⟨hkept, hknown⟩ => ?_, fun ⟨hblank, hknown⟩ => ?_⟩⟩
  · refine ⟨fun s hmem => ?_, fun name hname => hknown name (namesIn_passedOverIn _ name hname)⟩
    by_contra hs
    rw [Bool.not_eq_true] at hs
    have hpositive : 0 < (textsIn (passedOverIn e.children)).count s := List.count_pos_iff.2 hmem
    have hall := hcount s hs
    have hsame : _ = (Node.sequence nodes).sources.count s := hkept s hs
    omega
  · refine ⟨fun s hs => ?_, fun name hname => (hplaced.known name hname).elim id (hknown name)⟩
    have hnone : s ∉ textsIn (passedOverIn e.children) := fun hmem => by simp [hblank s hmem] at hs
    rw [hcount s hs, List.count_eq_zero_of_not_mem hnone, Nat.add_zero]

/-- A choice keeps its last branch apart, so that its texts change their order. -/
theorem ofElement_keeps_choice :
    ∃ e t, e.children = [.text "a", .element "choose" [] [.text " ", .element "otherwise" [] [.text "b"],
        .element "when" [("test", "c")] [.cdata "$\x7bd\x7d"]]] ∧
      ofElement e = .ok t ∧ t.root.sources = ["a", "$\x7bd\x7d", "b"] ∧
      Placed .body e.children ∧
      (∀ s, Text.isBlankString s = false →
        (textsIn e.children).count s = t.root.sources.count s + (textsIn (passedOverIn e.children)).count s) ∧
      Known e.children ∧
      ((∀ s, Text.isBlankString s = false → (textsIn e.children).count s = t.root.sources.count s) ∧
          (∀ name ∈ namesIn e.children, name ∈ tags) ↔
        (∀ s ∈ textsIn (passedOverIn e.children), Text.isBlankString s = true) ∧
          ∀ name ∈ namesIn (passedOverIn e.children), name ∈ tags) := by
  let e : Element := ⟨"select", [], [.text "a", .element "choose" [] [.text " ", .element "otherwise" [] [.text "b"],
    .element "when" [("test", "c")] [.cdata "$\x7bd\x7d"]]]⟩
  have hsources : (ofElement e).toOption.map (·.root.sources) = some ["a", "$\x7bd\x7d", "b"] := by decide +kernel
  obtain ⟨t, ht, hkept⟩ := Option.map_eq_some_iff.1 hsources
  have hok := toOption_eq_some.1 ht
  exact ⟨e, t, rfl, hok, hkept, ofElement_keeps hok⟩

/-- A template is built of a tree with an unknown element, whose text is in no node. -/
theorem body_of_binding_lost :
    ∃ e t, e.children = [.element "bind" [("name", "x"), ("value", "1")] [.element "iff" [] [.text "lost"]]] ∧
      ofElement e = .ok t ∧ "lost" ∈ textsIn e.children ∧ Text.isBlankString "lost" = false ∧ t.root.sources = [] ∧
      "iff" ∈ namesIn e.children ∧ "iff" ∉ tags := by
  let e : Element := ⟨"select", [], [.element "bind" [("name", "x"), ("value", "1")] [.element "iff" [] [.text "lost"]]]⟩
  have hsources : (ofElement e).toOption.map (·.root.sources) = some [] := by decide +kernel
  obtain ⟨t, ht, hkept⟩ := Option.map_eq_some_iff.1 hsources
  exact ⟨e, t, rfl, toOption_eq_some.1 ht, by decide +kernel, by decide +kernel, hkept, by decide +kernel, by decide +kernel⟩

end Template

end SqlTemplate
