import SqlTemplate.Proofs.Rendering.Success

/-! # Static templates

A template without tags and substitutions is text all through, and writes the same wherever it is rendered.
-/

namespace SqlTemplate

open SqlTemplate.Computation

namespace Template

/-- Only a nested script leaves no node of its own. -/
theorem isStatic_of_element {name : String} {attributes : List (String × String)} {children : List Content} {n : Node}
    (h : ofContent (.element name attributes children) = .ok n) (hname : name ≠ "script") : n.isStatic = false := by
  unfold ofContent at h
  dsimp only at h
  split at h
  · exact absurd rfl hname
  · obtain ⟨test, -, h⟩ := except_bind_ok.1 h
    obtain ⟨nodes, -, h⟩ := except_bind_ok.1 h
    cases h
    rfl
  · obtain ⟨b, -, rfl⟩ := except_map_ok.1 h
    rfl
  · obtain ⟨nodes, -, rfl⟩ := except_map_ok.1 h
    rfl
  · obtain ⟨nodes, -, rfl⟩ := except_map_ok.1 h
    rfl
  · obtain ⟨nodes, -, rfl⟩ := except_map_ok.1 h
    rfl
  · obtain ⟨l, -, h⟩ := except_bind_ok.1 h
    obtain ⟨nodes, -, h⟩ := except_bind_ok.1 h
    cases h
    rfl
  · obtain ⟨target, -, h⟩ := except_bind_ok.1 h
    obtain ⟨value, -, h⟩ := except_bind_ok.1 h
    cases h
    rfl
  all_goals cases h

mutual

theorem isStatic_of_content (c : Content) {n : Node} (h : ofContent c = .ok n) : n.isStatic = true ↔ isDynamic c = false := by
  match c with
  | .text s | .cdata s =>
    rw [ofContent, ofText] at h
    rw [isDynamic]
    split at h
    · rename_i htokens
      obtain ⟨segments, -, rfl⟩ := except_map_ok.1 h
      simp [Node.isStatic, htokens]
    · rename_i htokens
      cases h
      simp [Node.isStatic, htokens]
  | .element name attributes children =>
    by_cases hname : name = "script"
    · subst hname
      rw [ofContent] at h
      obtain ⟨nodes, hc, rfl⟩ := except_map_ok.1 h
      rw [Node.isStatic, allStatic_of_contents children hc]
      simp [isDynamic]
    · simp [isStatic_of_element h hname, isDynamic, hname]

theorem allStatic_of_contents (contents : List Content) {nodes : List Node} (h : ofContents contents = .ok nodes) :
    Node.allStatic nodes = true ↔ anyDynamic contents = false := by
  match contents with
  | [] =>
    cases h
    exact iff_of_true rfl rfl
  | c :: contents =>
    rw [ofContents] at h
    obtain ⟨n, hn, h⟩ := except_bind_ok.1 h
    obtain ⟨rest, hrest, h⟩ := except_bind_ok.1 h
    cases h
    rw [Node.allStatic, Bool.and_eq_true, anyDynamic, Bool.or_eq_false_iff, isStatic_of_content c hn,
      allStatic_of_contents contents hrest]

end

/-- The flag says whether there is anything but text in the template. -/
theorem root_isStatic_iff {e : Element} {t : Template} (h : ofElement e = .ok t) :
    t.root.isStatic = true ↔ t.dynamic = false := by
  rw [ofElement] at h
  obtain ⟨nodes, hc, rfl⟩ := except_map_ok.1 h
  exact allStatic_of_contents _ hc

theorem root_isStatic {e : Element} {t : Template} (h : ofElement e = .ok t) (hs : t.dynamic = false) :
    t.root.isStatic = true := (root_isStatic_iff h).2 hs

theorem ofElement_text {name s : String} (h : substitution.hasTokens s = false) :
    ofElement ⟨name, [], [.text s]⟩ = .ok ⟨.sequence [.text s], false⟩ := by
  simp [ofElement, ofContents, ofContent, ofText, anyDynamic, isDynamic, h, bind, Except.bind, Except.map]

end Template

namespace Node

theorem mem_isStatic {nodes : List Node} (h : allStatic nodes = true) : ∀ n ∈ nodes, n.isStatic = true := by
  induction nodes with
  | nil => simp
  | cons n nodes ih =>
    rw [allStatic, Bool.and_eq_true] at h
    exact List.forall_mem_cons.2 ⟨h.1, ih h.2⟩

/-- Text is written as it stands, and nothing else happens. -/
def Writes {α : Type} (x : Render α) (a : α) (added : List String) : Prop :=
  ∀ c, run x c = (.ok a, { c with fragments := c.fragments ++ added })

theorem renderAll_writes {nodes : List Node} (h : ∀ n ∈ nodes, ∃ added, Writes n.render true added) :
    ∃ added, Writes (renderAll nodes) ⟨⟩ added := by
  induction nodes with
  | nil => exact ⟨[], fun c => by simp⟩
  | cons n nodes ih =>
    rw [List.forall_mem_cons] at h
    obtain ⟨added, hn⟩ := h.1
    obtain ⟨more, hrest⟩ := ih h.2
    refine ⟨added ++ more, fun c => renderAll_cons_ok.2 ⟨true, _, hn c, ?_⟩⟩
    rw [hrest, List.append_assoc]

/-- A static node cannot fail and writes the same fragments in every context. -/
theorem render_static (n : Node) (h : n.isStatic = true) : ∃ added, Writes n.render true added := by
  induction n using tree_induction with
  | text s => exact ⟨[s], fun c => render_text_ok.2 ⟨rfl, rfl⟩⟩
  | sequence nodes ih =>
    rw [isStatic] at h
    obtain ⟨added, hall⟩ := renderAll_writes fun n hn => ih n hn (mem_isStatic h n hn)
    exact ⟨added, fun c => render_sequence_ok.2 ⟨rfl, hall c⟩⟩
  | _ => simp [isStatic] at h

end Node

end SqlTemplate
