import SqlTemplate.Catalog.Include
import SqlTemplate.Proofs.Computation

/-! # Which fragments an expansion depends on

An expansion that succeeds depends on the fragments that its includes reach, and on no others.
-/

namespace SqlTemplate.Include

open SqlTemplate.Computation

mutual

/-- The includes in the content, however deep. -/
def includesOf : Content → List Element
  | .text _ | .cdata _ => []
  | .element name attributes children =>
    if name = "include" then [⟨name, attributes, children⟩] else includesIn children

def includesIn : List Content → List Element
  | [] => []
  | c :: contents => includesOf c ++ includesIn contents

end

/-- The id of the fragment that an include stands for. -/
def target (nameSpace : String) (known : Dict String) (e : Element) : Except CompileError String :=
  (e.required "refid").map fun reference => Catalog.qualify nameSpace (fill known reference)

/-- The contents include the fragment of the id, or another that reaches it. -/
inductive Reaches (fragments : Dict Fragment) : String → Dict String → List Content → String → Prop
  | direct {nameSpace : String} {known : Dict String} {contents : List Content} {e : Element} {id : String} :
    e ∈ includesIn contents → target nameSpace known e = .ok id → Reaches fragments nameSpace known contents id
  | through {nameSpace : String} {known within : Dict String} {contents : List Content} {e : Element} {id reached : String}
      {fragment : Fragment} :
    e ∈ includesIn contents → target nameSpace known e = .ok id → Dict.get? fragments id = some fragment →
      inner known e = .ok within → Reaches fragments fragment.nameSpace within fragment.element.children reached →
      Reaches fragments nameSpace known contents reached

variable {visit visit' : Element → Except CompileError (List Content)} {known : Dict String}

theorem expandContent_element {name : String} (hname : name ≠ "include") (attributes : List (String × String))
    (children : List Content) :
    expandContent visit known (.element name attributes children) = (do
      let expanded ← expandContents visit known children
      .ok [.element name (attributes.map fun (key, value) => (key, fill known value)) expanded]) := by
  rw [expandContent]
  exact hname

mutual

theorem expandContent_mono (c : Content) {out : List Content}
    (hvisit : ∀ e ∈ includesOf c, ∀ sub, visit e = .ok sub → visit' e = .ok sub)
    (h : expandContent visit known c = .ok out) : expandContent visit' known c = .ok out := by
  match c with
  | .text s | .cdata s => exact h
  | .element name attributes children =>
    by_cases hname : name = "include"
    · subst hname
      rw [includesOf, if_pos rfl] at hvisit
      rw [expandContent] at h ⊢
      exact hvisit _ (List.mem_singleton_self _) _ h
    · rw [includesOf, if_neg hname] at hvisit
      rw [expandContent_element hname] at h ⊢
      obtain ⟨expanded, hexpanded, h⟩ := except_bind_ok.1 h
      exact except_bind_ok.2 ⟨expanded, expandContents_mono children hvisit hexpanded, h⟩

theorem expandContents_mono (contents : List Content) {out : List Content}
    (hvisit : ∀ e ∈ includesIn contents, ∀ sub, visit e = .ok sub → visit' e = .ok sub)
    (h : expandContents visit known contents = .ok out) : expandContents visit' known contents = .ok out := by
  match contents with
  | [] => exact h
  | c :: contents =>
    rw [includesIn] at hvisit
    rw [expandContents] at h ⊢
    obtain ⟨first, hfirst, h⟩ := except_bind_ok.1 h
    obtain ⟨rest, hrest, h⟩ := except_bind_ok.1 h
    have hfirst' := expandContent_mono c (fun e he => hvisit e (List.mem_append_left _ he)) hfirst
    have hrest' := expandContents_mono contents (fun e he => hvisit e (List.mem_append_right _ he)) hrest
    exact except_bind_ok.2 ⟨first, hfirst', except_bind_ok.2 ⟨rest, hrest', h⟩⟩

end

/-- What an include becomes inside the fragments of a path. -/
theorem expand_eq (left : Dict Fragment) (path : List String) (nameSpace : String) (known : Dict String)
    (contents : List Content) :
    expand left path nameSpace known contents = expandContents (fun e => do
      let id ← target nameSpace known e
      if id ∈ path then .error (.circularInclude id)
      else
        match Dict.get? left id with
        | none => .error (.unknownFragment id)
        | some fragment => do
          let within ← inner known e
          expand (Dict.erase left id) (id :: path) fragment.nameSpace within fragment.element.children) known contents := by
  rw [expand]
  congr 1
  funext e
  rw [target]
  cases e.required "refid" with
  | error err => rfl
  | ok reference =>
    simp only [Except.map, bind, Except.bind]
    split
    · rfl
    · split <;> simp_all

/-- An expansion that succeeds does so too where other fragments are added or replaced, as long as those that it reaches stay. -/
theorem expand_mono {fragments fragments' left left' : Dict Fragment} {path : List String} {nameSpace : String}
    {known : Dict String} {contents out : List Content}
    (hleft : ∀ id, id ∉ path → Dict.get? left id = Dict.get? fragments id)
    (hleft' : ∀ id, id ∉ path → Dict.get? left' id = Dict.get? fragments' id)
    (hstay : ∀ id f, Reaches fragments nameSpace known contents id → Dict.get? fragments id = some f →
      Dict.get? fragments' id = some f)
    (h : expand left path nameSpace known contents = .ok out) : expand left' path nameSpace known contents = .ok out := by
  induction hn : left.length using Nat.strongRecOn generalizing left left' path nameSpace known contents out with
  | _ n ih =>
    subst hn
    rw [expand_eq] at h ⊢
    -- Each include takes its fragment out of those left, which is what the induction goes by.
    refine expandContents_mono contents (fun e he sub hsub => ?_) h
    obtain ⟨id, htarget, hsub⟩ := except_bind_ok.1 hsub
    refine except_bind_ok.2 ⟨id, htarget, ?_⟩
    by_cases hid : id ∈ path
    · simp [hid] at hsub
    · rw [if_neg hid] at hsub ⊢
      cases hget : Dict.get? left id with
      | none => simp [hget] at hsub
      | some fragment =>
        have hfragment : Dict.get? fragments id = some fragment := (hleft id hid).symm.trans hget
        have hfragment' := hstay id fragment (.direct he htarget) hfragment
        rw [hleft' id hid, hfragment']
        rw [hget] at hsub
        obtain ⟨within, hwithin, hsub⟩ := except_bind_ok.1 hsub
        refine except_bind_ok.2 ⟨within, hwithin, ih _ (Dict.length_erase_lt hget) ?_ ?_ ?_ hsub rfl⟩
        · intro other hother
          rw [List.mem_cons, not_or] at hother
          rw [Dict.get?_erase, if_neg hother.1, hleft other hother.2]
        · intro other hother
          rw [List.mem_cons, not_or] at hother
          rw [Dict.get?_erase, if_neg hother.1, hleft' other hother.2]
        · exact fun other f hreaches => hstay other f (.through he htarget hfragment hwithin hreaches)

end SqlTemplate.Include
