import Mathlib.Logic.Relation
import SqlTemplate.Proofs.Catalog.Include
import SqlTemplate.Proofs.Text.Search
import SqlTemplate.Proofs.Token.Walk

/-! # What expansion rejects

Expansion goes from an include to its fragment and from there to the includes of the fragment. It ends, since it enters no fragment
twice on one path. Where the includes are in order it fails exactly if it can come to a fragment that includes itself or to one
that is not registered.
-/

namespace SqlTemplate.Include

open Relation SqlTemplate.Computation

variable {fragments : Dict Fragment} {path : List String} {nameSpace : String} {known : Dict String}
  {visit : Element → Except CompileError (List Content)} {contents out : List Content} {e : Element} {err : CompileError}

/-! ## The elements of a tree -/

mutual

/-- The names of the elements in the content, however deep. -/
def namesOf : Content → List String
  | .text _ | .cdata _ => []
  | .element name _ children => name :: namesIn children

def namesIn : List Content → List String
  | [] => []
  | c :: contents => namesOf c ++ namesIn contents

end

theorem namesIn_append (first rest : List Content) : namesIn (first ++ rest) = namesIn first ++ namesIn rest := by
  induction first with
  | nil => rfl
  | cons c first ih => rw [List.cons_append, namesIn, namesIn, ih, List.append_assoc]

mutual

/-- An include is replaced by what it stands for, so it is in the result only if it is in that. -/
theorem expandContent_names (c : Content) {out : List Content} (hvisit : ∀ e sub, visit e = .ok sub → "include" ∉ namesIn sub)
    (h : expandContent visit known c = .ok out) : "include" ∉ namesIn out := by
  match c with
  | .text s | .cdata s =>
    cases h
    simp [namesIn, namesOf]
  | .element name attributes children =>
    by_cases hname : name = "include"
    · subst hname
      rw [expandContent] at h
      exact hvisit _ _ h
    · rw [expandContent_element hname] at h
      obtain ⟨expanded, hexpanded, h⟩ := except_bind_ok.1 h
      cases h
      have hchildren := expandContents_names children hvisit hexpanded
      simpa [namesIn, namesOf, hchildren] using Ne.symm hname

theorem expandContents_names (contents : List Content) {out : List Content}
    (hvisit : ∀ e sub, visit e = .ok sub → "include" ∉ namesIn sub) (h : expandContents visit known contents = .ok out) :
    "include" ∉ namesIn out := by
  match contents with
  | [] =>
    cases h
    simp [namesIn]
  | c :: contents =>
    rw [expandContents] at h
    obtain ⟨first, hfirst, h⟩ := except_bind_ok.1 h
    obtain ⟨rest, hrest, h⟩ := except_bind_ok.1 h
    cases h
    rw [namesIn_append, List.mem_append, not_or]
    exact ⟨expandContent_names c hvisit hfirst, expandContents_names contents hvisit hrest⟩

end

mutual

theorem expandContent_error (c : Content) (h : expandContent visit known c = .error err) :
    ∃ e ∈ includesOf c, visit e = .error err := by
  match c with
  | .text s | .cdata s => cases h
  | .element name attributes children =>
    by_cases hname : name = "include"
    · subst hname
      rw [expandContent] at h
      exact ⟨_, by rw [includesOf, if_pos rfl]; exact List.mem_singleton_self _, h⟩
    · rw [expandContent_element hname] at h
      rw [includesOf, if_neg hname]
      cases hchildren : expandContents visit known children with
      | error e =>
        rw [hchildren] at h
        cases h
        exact expandContents_error children hchildren
      | ok expanded =>
        rw [hchildren] at h
        cases h

/-- An expansion that fails does so at an include. -/
theorem expandContents_error (contents : List Content) (h : expandContents visit known contents = .error err) :
    ∃ e ∈ includesIn contents, visit e = .error err := by
  match contents with
  | [] => cases h
  | c :: contents =>
    rw [expandContents] at h
    simp only [includesIn, List.mem_append]
    cases hfirst : expandContent visit known c with
    | error e =>
      rw [hfirst] at h
      cases h
      obtain ⟨e, he, hvisit⟩ := expandContent_error c hfirst
      exact ⟨e, .inl he, hvisit⟩
    | ok first =>
      rw [hfirst, except_ok_bind] at h
      cases hrest : expandContents visit known contents with
      | error e =>
        rw [hrest] at h
        cases h
        obtain ⟨e, he, hvisit⟩ := expandContents_error contents hrest
        exact ⟨e, .inr he, hvisit⟩
      | ok rest =>
        rw [hrest] at h
        cases h

end

mutual

theorem expandContent_visits (c : Content) {out : List Content} (h : expandContent visit known c = .ok out) :
    ∀ e ∈ includesOf c, ∃ sub, visit e = .ok sub := by
  match c with
  | .text s | .cdata s => simp [includesOf]
  | .element name attributes children =>
    by_cases hname : name = "include"
    · subst hname
      rw [expandContent] at h
      rw [includesOf, if_pos rfl]
      simpa using ⟨out, h⟩
    · rw [expandContent_element hname] at h
      rw [includesOf, if_neg hname]
      obtain ⟨expanded, hexpanded, -⟩ := except_bind_ok.1 h
      exact expandContents_visits children hexpanded

/-- An expansion that succeeds has expanded every include. -/
theorem expandContents_visits (contents : List Content) {out : List Content} (h : expandContents visit known contents = .ok out) :
    ∀ e ∈ includesIn contents, ∃ sub, visit e = .ok sub := by
  match contents with
  | [] => simp [includesIn]
  | c :: contents =>
    rw [expandContents] at h
    obtain ⟨first, hfirst, h⟩ := except_bind_ok.1 h
    obtain ⟨rest, hrest, -⟩ := except_bind_ok.1 h
    simp only [includesIn, List.mem_append]
    rintro e (he | he)
    · exact expandContent_visits c hfirst e he
    · exact expandContents_visits contents hrest e he

end

/-! ## The recursion over all fragments -/

/-- The fragments that are not on the path. -/
def outside (fragments : Dict Fragment) (path : List String) : Dict Fragment := fragments.filter (·.1 ∉ path)

/-- The contents with every include expanded, where `path` is that of the fragments that they are part of. -/
def resolve (fragments : Dict Fragment) (path : List String) (nameSpace : String) (known : Dict String) (contents : List Content) :
    Except CompileError (List Content) :=
  expand (outside fragments path) path nameSpace known contents

/-- What an include stands for inside the fragments of a path. -/
def enter (fragments : Dict Fragment) (path : List String) (nameSpace : String) (known : Dict String) (e : Element) :
    Except CompileError (List Content) := do
  let id ← target nameSpace known e
  if id ∈ path then .error (.circularInclude id)
  else
    match Dict.get? fragments id with
    | none => .error (.unknownFragment id)
    | some fragment => do
      let within ← inner known e
      resolve fragments (id :: path) fragment.nameSpace within fragment.element.children

/-- One path is the other with one fragment more, which was not on it. -/
inductive Enters (fragments : Dict Fragment) : List String → List String → Prop
  | enters {id : String} {path : List String} {fragment : Fragment} (hnew : id ∉ path)
    (hfragment : Dict.get? fragments id = some fragment) : Enters fragments (id :: path) path

theorem outside_nil (fragments : Dict Fragment) : outside fragments [] = fragments := by
  simp [outside]

theorem erase_outside (fragments : Dict Fragment) (path : List String) (id : String) :
    Dict.erase (outside fragments path) id = outside fragments (id :: path) := by
  rw [Dict.erase, outside, outside, List.filter_filter]
  congr 1
  funext entry
  simp [Bool.decide_and]

theorem get?_outside {id : String} (h : id ∉ path) (fragments : Dict Fragment) :
    Dict.get? (outside fragments path) id = Dict.get? fragments id := by
  induction fragments with
  | nil => rfl
  | cons entry fragments ih =>
    obtain ⟨name, fragment⟩ := entry
    unfold outside at ih ⊢
    rw [List.filter_cons, Dict.get?_cons]
    by_cases hid : id = name
    · subst hid
      rw [if_pos (by simpa using h), Dict.get?_cons, if_pos rfl, if_pos rfl]
    · rw [if_neg hid]
      split
      · rw [Dict.get?_cons, if_neg hid, ih]
      · exact ih

/-- Every fragment that is entered leaves fewer that can be. -/
theorem enters_wellFounded (fragments : Dict Fragment) : WellFounded (Enters fragments) := by
  -- The graph may have cycles, so that the measure is the number of fragments off the path and not the depth of one.
  refine Subrelation.wf ?_ (InvImage.wf (fun path => (outside fragments path).length) Nat.lt_wfRel.wf)
  rintro _ _ ⟨hnew, hfragment⟩
  change (outside fragments _).length < (outside fragments _).length
  rw [← erase_outside]
  exact Dict.length_erase_lt ((get?_outside hnew fragments).trans hfragment)

theorem resolve_eq (fragments : Dict Fragment) (path : List String) (nameSpace : String) (known : Dict String)
    (contents : List Content) :
    resolve fragments path nameSpace known contents =
      expandContents (enter fragments path nameSpace known) known contents := by
  rw [resolve, expand_eq]
  congr 1
  funext e
  rw [enter]
  congr 1
  funext id
  split
  · rfl
  · rename_i hid
    rw [get?_outside hid]
    cases Dict.get? fragments id with
    | none => rfl
    | some fragment => simp only [erase_outside, resolve]

/-! ## Includes in order -/

/-- The elements of an include that declare its properties. -/
def declarations (e : Element) : List Element := e.elements.filter fun p => p.name = "property"

/-- An include whose reference is no template and whose properties are complete and declared once. -/
structure Plain (e : Element) : Prop where
  reference : ∃ reference, e.attribute? "refid" = some reference ∧ ¬ substitution.opening <:+: reference.toList
  complete : ∀ p ∈ declarations e, (p.attribute? "name").isSome ∧ (p.attribute? "value").isSome
  distinct : ((declarations e).map (·.attribute? "name")).Nodup

theorem fill_plain {text : String} (h : ¬ substitution.opening <:+: text.toList) (known : Dict String) : fill known text = text := by
  have hlexemes : substitution.lexemes text.toList = Delimiters.textRun text.toList := by
    simp [Delimiters.lexemes_turn, Delimiters.turn, Text.breakOn_eq_none h]
  refine substitution.substitute_unknown fun content hmem => ?_
  rw [Piece.mem_contents, Delimiters.pieces, hlexemes, Delimiters.textRun] at hmem
  split at hmem <;> simp [Delimiters.piece] at hmem

theorem properties_ok {declared : Dict String} {elements : List Element}
    (hcomplete : ∀ p ∈ elements.filter fun p => p.name = "property", (p.attribute? "name").isSome ∧ (p.attribute? "value").isSome)
    (hdistinct : ((elements.filter fun p => p.name = "property").map (·.attribute? "name")).Nodup)
    (hnew : ∀ p ∈ elements.filter fun p => p.name = "property", ∀ name ∈ p.attribute? "name", Dict.get? declared name = none)
    (known : Dict String) : ∃ d, properties known declared elements = .ok d := by
  induction elements generalizing declared with
  | nil => exact ⟨declared, rfl⟩
  | cons e elements ih =>
    rw [properties]
    by_cases hproperty : e.name = "property"
    · rw [List.filter_cons_of_pos (by simpa using hproperty)] at hcomplete hdistinct hnew
      rw [List.forall_mem_cons] at hcomplete hnew
      rw [List.map_cons, List.nodup_cons] at hdistinct
      obtain ⟨name, hname⟩ := Option.isSome_iff_exists.1 hcomplete.1.1
      obtain ⟨value, hvalue⟩ := Option.isSome_iff_exists.1 hcomplete.1.2
      have hfree : Dict.get? declared name = none := hnew.1 name hname
      -- The declared name is taken now, but no property after this one has it.
      have hrest : ∀ p ∈ elements.filter fun p => p.name = "property", ∀ other ∈ p.attribute? "name",
          Dict.get? (Dict.insert name (fill known value) declared) other = none := by
        intro p hp other hother
        have hne : other ≠ name := by
          rintro rfl
          exact hdistinct.1 (List.mem_map.2 ⟨p, hp, hother.trans hname.symm⟩)
        rw [Dict.get?_insert_of_ne hne]
        exact hnew.2 p hp other hother
      obtain ⟨d, hd⟩ := ih hcomplete.2 hdistinct.2 hrest
      refine ⟨d, ?_⟩
      rw [if_pos hproperty, Element.required, hname, Element.required, hvalue, except_ok_bind, except_ok_bind, Dict.contains, hfree]
      exact hd
    · rw [List.filter_cons_of_neg (by simpa using hproperty)] at hcomplete hdistinct hnew
      rw [if_neg hproperty]
      exact ih hcomplete hdistinct hnew

theorem Plain.inner (h : Plain e) (known : Dict String) : ∃ within, inner known e = .ok within := by
  obtain ⟨declared, hdeclared⟩ := @properties_ok [] _ h.complete h.distinct (by simp [Dict.get?_nil]) known
  exact ⟨Dict.union known declared, by rw [Include.inner, hdeclared]; rfl⟩

/-- The id of the fragment that an include refers to as it is written. -/
def link (nameSpace : String) (e : Element) : Option String := (e.attribute? "refid").map (Catalog.qualify nameSpace)

/-- The ids of the fragments that the contents include, however deep. -/
def links (nameSpace : String) (contents : List Content) : List String := (includesIn contents).filterMap (link nameSpace)

theorem Plain.target (h : Plain e) (nameSpace : String) :
    ∃ id, link nameSpace e = some id ∧ ∀ known, target nameSpace known e = .ok id := by
  obtain ⟨reference, hreference, hplain⟩ := h.reference
  refine ⟨Catalog.qualify nameSpace reference, by rw [link, hreference]; rfl, fun known => ?_⟩
  rw [Include.target, Element.required, hreference]
  exact congrArg (fun text => Except.ok (Catalog.qualify nameSpace text)) (fill_plain hplain known)

/-! ## The graph of fragments -/

/-- A fragment includes another. -/
def Includes (fragments : Dict Fragment) (id other : String) : Prop :=
  ∃ fragment, Dict.get? fragments id = some fragment ∧ other ∈ links fragment.nameSpace fragment.element.children

/-- The fragment of the id is included in the contents, or in a fragment that is. -/
def Reachable (fragments : Dict Fragment) (nameSpace : String) (contents : List Content) (id : String) : Prop :=
  ∃ first ∈ links nameSpace contents, ReflTransGen (Includes fragments) first id

/-- The includes in every fragment are plain. -/
def PlainFragments (fragments : Dict Fragment) : Prop :=
  ∀ id fragment, Dict.get? fragments id = some fragment → ∀ e ∈ includesIn fragment.element.children, Plain e

theorem Reachable.through {first id : String} {fragment : Fragment} (hfirst : first ∈ links nameSpace contents)
    (hfragment : Dict.get? fragments first = some fragment)
    (h : Reachable fragments fragment.nameSpace fragment.element.children id) : Reachable fragments nameSpace contents id := by
  obtain ⟨second, hsecond, hreach⟩ := h
  exact ⟨first, hfirst, .head ⟨fragment, hfragment, hsecond⟩ hreach⟩

theorem Reachable.cases {id : String} (h : Reachable fragments nameSpace contents id) :
    id ∈ links nameSpace contents ∨ ∃ first ∈ links nameSpace contents, ∃ fragment, Dict.get? fragments first = some fragment ∧
      Reachable fragments fragment.nameSpace fragment.element.children id := by
  obtain ⟨first, hfirst, hreach⟩ := h
  rcases hreach.cases_head with rfl | ⟨second, ⟨fragment, hfragment, hsecond⟩, hreach⟩
  · exact .inl hfirst
  · exact .inr ⟨first, hfirst, fragment, hfragment, second, hsecond, hreach⟩

/-- A plain include that fails is on the path, is not registered, or fails further on. -/
theorem enter_error (h : Plain e) (herror : enter fragments path nameSpace known e = .error err) :
    ∃ id, link nameSpace e = some id ∧
      (id ∈ path ∧ err = .circularInclude id ∨ Dict.get? fragments id = none ∧ err = .unknownFragment id ∨
        id ∉ path ∧ ∃ fragment within, Dict.get? fragments id = some fragment ∧
          resolve fragments (id :: path) fragment.nameSpace within fragment.element.children = .error err) := by
  obtain ⟨id, hlink, htarget⟩ := h.target nameSpace
  refine ⟨id, hlink, ?_⟩
  rw [enter, htarget, except_ok_bind] at herror
  by_cases hpath : id ∈ path
  · rw [if_pos hpath] at herror
    cases herror
    exact .inl ⟨hpath, rfl⟩
  · rw [if_neg hpath] at herror
    cases hfragment : Dict.get? fragments id with
    | none =>
      simp only [hfragment] at herror
      cases herror
      exact .inr (.inl ⟨rfl, rfl⟩)
    | some fragment =>
      obtain ⟨within, hwithin⟩ := h.inner known
      simp only [hfragment, hwithin, except_ok_bind] at herror
      exact .inr (.inr ⟨hpath, fragment, within, rfl, herror⟩)

/-- A plain include that succeeds is not on the path and is registered. -/
theorem enter_ok (h : Plain e) (hok : enter fragments path nameSpace known e = .ok out) {id : String}
    (hlink : link nameSpace e = some id) :
    id ∉ path ∧ ∃ fragment within, Dict.get? fragments id = some fragment ∧
      resolve fragments (id :: path) fragment.nameSpace within fragment.element.children = .ok out := by
  obtain ⟨other, hother, htarget⟩ := h.target nameSpace
  obtain rfl : other = id := by simpa [hother] using hlink
  rw [enter, htarget, except_ok_bind] at hok
  by_cases hpath : other ∈ path
  · rw [if_pos hpath] at hok
    cases hok
  · rw [if_neg hpath] at hok
    cases hfragment : Dict.get? fragments other with
    | none =>
      simp only [hfragment] at hok
      cases hok
    | some fragment =>
      simp only [hfragment] at hok
      obtain ⟨within, -, hok⟩ := except_bind_ok.1 hok
      exact ⟨hpath, fragment, within, rfl, hok⟩

theorem mem_links (he : e ∈ includesIn contents) {id : String} (h : link nameSpace e = some id) : id ∈ links nameSpace contents :=
  List.mem_filterMap.2 ⟨e, he, h⟩

/-! ## What fails and what does not -/

theorem resolve_names (h : resolve fragments path nameSpace known contents = .ok out) : "include" ∉ namesIn out := by
  induction path using (enters_wellFounded fragments).induction generalizing nameSpace known contents out with
  | _ path ih =>
    rw [resolve_eq] at h
    refine expandContents_names contents (fun e sub hsub => ?_) h
    obtain ⟨id, -, hsub⟩ := except_bind_ok.1 hsub
    by_cases hpath : id ∈ path
    · simp [hpath] at hsub
    · rw [if_neg hpath] at hsub
      cases hfragment : Dict.get? fragments id with
      | none => simp [hfragment] at hsub
      | some fragment =>
        simp only [hfragment] at hsub
        obtain ⟨within, -, hsub⟩ := except_bind_ok.1 hsub
        exact ih (id :: path) (.enters hpath hfragment) hsub

/-- A failure is at a fragment that includes itself or at one that is not registered. The fragments of the path lead to the
contents, so that one that is included again includes itself. -/
theorem resolve_error (hfragments : PlainFragments fragments) (hcontents : ∀ e ∈ includesIn contents, Plain e)
    (hpath : ∀ id ∈ path, ∀ other ∈ links nameSpace contents, TransGen (Includes fragments) id other)
    (h : resolve fragments path nameSpace known contents = .error err) :
    ∃ id, Reachable fragments nameSpace contents id ∧
      (err = .circularInclude id ∧ TransGen (Includes fragments) id id ∨ err = .unknownFragment id ∧ Dict.get? fragments id = none) := by
  induction path using (enters_wellFounded fragments).induction generalizing nameSpace known contents with
  | _ path ih =>
    rw [resolve_eq] at h
    obtain ⟨e, he, hvisit⟩ := expandContents_error contents h
    obtain ⟨id, hlink, hcases⟩ := enter_error (hcontents e he) hvisit
    have hmem := mem_links he hlink
    rcases hcases with ⟨hin, rfl⟩ | ⟨hnone, rfl⟩ | ⟨hnew, fragment, within, hfragment, hnext⟩
    · exact ⟨id, ⟨id, hmem, .refl⟩, .inl ⟨rfl, hpath id hin id hmem⟩⟩
    · exact ⟨id, ⟨id, hmem, .refl⟩, .inr ⟨rfl, hnone⟩⟩
    · have hstep (other : String) (hother : other ∈ links fragment.nameSpace fragment.element.children) :
          Includes fragments id other := ⟨fragment, hfragment, hother⟩
      have hpath' : ∀ first ∈ id :: path, ∀ other ∈ links fragment.nameSpace fragment.element.children,
          TransGen (Includes fragments) first other := by
        intro first hfirst other hother
        rcases List.mem_cons.1 hfirst with rfl | hfirst
        · exact .single (hstep other hother)
        · exact (hpath first hfirst id hmem).tail (hstep other hother)
      obtain ⟨bad, hreach, hbad⟩ := ih (id :: path) (.enters hnew hfragment) (hfragments id fragment hfragment) hpath' hnext
      exact ⟨bad, hreach.through hmem hfragment, hbad⟩

/-- Where nothing fails, what can be come to is registered and does not include itself: it would be entered inside itself. -/
theorem resolve_reachable (hfragments : PlainFragments fragments) (hcontents : ∀ e ∈ includesIn contents, Plain e)
    (h : resolve fragments path nameSpace known contents = .ok out) {id : String} (hid : Reachable fragments nameSpace contents id) :
    id ∉ path ∧ (Dict.get? fragments id).isSome ∧ ¬ TransGen (Includes fragments) id id := by
  induction path using (enters_wellFounded fragments).induction generalizing nameSpace known contents out id with
  | _ path ih =>
    rw [resolve_eq] at h
    have henter (first : String) (hfirst : first ∈ links nameSpace contents) :
        first ∉ path ∧ ∃ fragment, Dict.get? fragments first = some fragment ∧
          ∀ other, Reachable fragments fragment.nameSpace fragment.element.children other →
            other ∉ first :: path ∧ (Dict.get? fragments other).isSome ∧ ¬ TransGen (Includes fragments) other other := by
      obtain ⟨e, he, hlink⟩ := List.mem_filterMap.1 hfirst
      obtain ⟨sub, hsub⟩ := expandContents_visits contents h e he
      obtain ⟨hnew, fragment, within, hfragment, hnext⟩ := enter_ok (hcontents e he) hsub hlink
      exact ⟨hnew, fragment, hfragment, fun other =>
        ih (first :: path) (.enters hnew hfragment) (hfragments first fragment hfragment) hnext⟩
    rcases hid.cases with hfirst | ⟨first, hfirst, fragment, hfragment, hreach⟩
    · obtain ⟨hnew, fragment, hfragment, hnext⟩ := henter id hfirst
      refine ⟨hnew, by rw [hfragment]; rfl, fun hcycle => ?_⟩
      obtain ⟨second, ⟨found, hfound, hsecond⟩, hback⟩ := TransGen.head'_iff.1 hcycle
      obtain rfl : fragment = found := by simpa [hfragment] using hfound
      exact (hnext id ⟨second, hsecond, hback⟩).1 List.mem_cons_self
    · obtain ⟨-, found, hfound, hnext⟩ := henter first hfirst
      obtain rfl : fragment = found := by simpa [hfragment] using hfound
      obtain ⟨hnew, hsome, hcycle⟩ := hnext id hreach
      exact ⟨fun hmem => hnew (List.mem_cons_of_mem _ hmem), hsome, hcycle⟩

end SqlTemplate.Include
