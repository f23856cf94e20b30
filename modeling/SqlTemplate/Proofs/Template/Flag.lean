import SqlTemplate.Proofs.Template.Sources
import SqlTemplate.Proofs.Template.Static

/-! # What the flag of a template says

The flag is found while a template is built, and its tree says the same. A template without the flag writes the same texts whatever
it is rendered for.
-/

namespace SqlTemplate.Template

open SqlTemplate.Computation Content

mutual

theorem writes_of_content (c : Content) {n : Node} (h : ofContent c = .ok n) (hs : isDynamic c = false) :
    Node.Writes n.render true (textsOf c) := by
  match c with
  | .text s | .cdata s =>
    rw [isDynamic] at hs
    rw [ofContent, ofText, if_neg (by simp [hs])] at h
    cases h
    exact fun d => Node.render_text_ok.2 ⟨rfl, rfl⟩
  | .element name attributes children =>
    rw [isDynamic, Bool.or_eq_false_iff, bne_eq_false_iff_eq] at hs
    obtain ⟨rfl, hs⟩ := hs
    rw [ofContent] at h
    obtain ⟨nodes, hnodes, rfl⟩ := except_map_ok.1 h
    exact fun d => Node.render_sequence_ok.2 ⟨rfl, writes_of_contents children hnodes hs d⟩

/-- Without tags and substitutions the nodes write the runs of text in order, and nothing else happens. -/
theorem writes_of_contents (contents : List Content) {nodes : List Node} (h : ofContents contents = .ok nodes)
    (hs : anyDynamic contents = false) : Node.Writes (Node.renderAll nodes) ⟨⟩ (textsIn contents) := by
  match contents with
  | [] =>
    cases h
    exact fun d => by simp [textsIn]
  | c :: contents =>
    rw [anyDynamic, Bool.or_eq_false_iff] at hs
    obtain ⟨n, rest, hn, hrest, rfl⟩ := ofContents_cons_ok.1 h
    intro d
    refine Node.renderAll_cons_ok.2 ⟨true, _, writes_of_content c hn hs.1 d, ?_⟩
    rw [writes_of_contents contents hrest hs.2, textsIn, List.append_assoc]

end

/-- The flag is clear exactly if the template is text all through. A rendering of it then succeeds wherever it begins, adds the runs
of text of the statement to the fragments in their order, and leaves the bindings and the counter as they were. -/
theorem dynamic_exact {e : Element} {t : Template} (h : ofElement e = .ok t) :
    (t.dynamic = false ↔ t.root.isStatic = true) ∧
      (t.dynamic = false → ∀ c, run t.root.render c = (.ok true, { c with fragments := c.fragments ++ textsIn e.children })) := by
  refine ⟨(root_isStatic_iff h).symm, fun hs c => ?_⟩
  rw [ofElement] at h
  obtain ⟨nodes, hnodes, rfl⟩ := except_map_ok.1 h
  exact Node.render_sequence_ok.2 ⟨rfl, writes_of_contents _ hnodes hs c⟩

/-- A nested script adds no node of its own, and an escaped substitution is text. -/
theorem dynamic_exact_nested :
    ∃ e t, e.children = [.text "select '\\$\x7bx\x7d' ", .element "script" [] [.cdata "where a < #\x7ba\x7d", .text ""]] ∧
      ofElement e = .ok t ∧ t.dynamic = false ∧ t.root.isStatic = true ∧
      run t.root.render (Context.initial (.int 7) (some "pg")) =
        (.ok true, { Context.initial (.int 7) (some "pg") with
          fragments := ["select '\\$\x7bx\x7d' ", "where a < #\x7ba\x7d", ""] }) := by
  let e : Element :=
    ⟨"select", [], [.text "select '\\$\x7bx\x7d' ", .element "script" [] [.cdata "where a < #\x7ba\x7d", .text ""]]⟩
  have hflag : (ofElement e).toOption.map (·.dynamic) = some false := by decide +kernel
  obtain ⟨t, ht, hs⟩ := Option.map_eq_some_iff.1 hflag
  have hexact := dynamic_exact (toOption_eq_some.1 ht)
  exact ⟨e, t, rfl, toOption_eq_some.1 ht, hs, hexact.1.1 hs, hexact.2 hs _⟩

end SqlTemplate.Template
