import SqlTemplate.Proofs.Mapping.Content
import SqlTemplate.Proofs.Rendering.Alias
import SqlTemplate.Proofs.Token.Edited

/-! # Renaming the placeholders of a text

A loop goes by the name at the front of a placeholder and by the character after it. An escape is neither, so that the contents
are renamed alike with and without escapes, and each by itself.
-/

namespace SqlTemplate

open Text Placeholder

/-! ## Contents with and without escapes -/

/-- A run of characters that no escape is made of is the same with and without escapes. -/
theorem unescape_span {q : Char → Bool} (hslash : q '\\' = false) (hclosing : q '}' = false) (cs : List Char) :
    (unescape cs).takeWhile q = cs.takeWhile q ∧ (unescape cs).dropWhile q = unescape (cs.dropWhile q) := by
  fun_induction unescape cs with
  | case1 cs ih => simp [hslash, hclosing, unescape]
  | case2 c cs hne ih =>
    cases hc : q c with
    | true => simp [hc, ih]
    | false =>
      rw [List.takeWhile_cons_of_neg (by simp [hc]), List.takeWhile_cons_of_neg (by simp [hc]),
        List.dropWhile_cons_of_neg (by simp [hc]), List.dropWhile_cons_of_neg (by simp [hc]), unescape]
      · exact ⟨rfl, rfl⟩
      · exact hne
  | case3 => exact ⟨rfl, rfl⟩

/-- No escape is made of blanks and of the characters of names. -/
theorem plain_notMem {a : List Char} (ha : ∀ c ∈ a, isBlank c = true ∨ isNameChar c = true) : '\\' ∉ a ∧ '}' ∉ a :=
  ⟨fun hmem => absurd (ha _ hmem) (by decide), fun hmem => absurd (ha _ hmem) (by decide)⟩

theorem endsName_unescape (cs : List Char) : endsName (unescape cs) = endsName cs := by
  fun_cases unescape cs with
  | case1 cs => rfl
  | case2 c cs hne => rfl
  | case3 => rfl

section

variable (raw : List Char)

theorem trimStart_unescape : trimStart (unescape raw) = unescape (trimStart raw) :=
  (unescape_span (by decide) (by decide) raw).2

theorem leadingName_meant : leadingName (Glyph.meant raw) = leadingName (.ofList raw) := by
  unfold leadingName Glyph.meant
  rw [String.toList_ofList, String.toList_ofList, trimStart_unescape]
  exact (unescape_span (by decide) (by decide) _).1

theorem afterName_meant : afterName (Glyph.meant raw) = unescape (afterName (.ofList raw)) := by
  unfold afterName Glyph.meant
  rw [String.toList_ofList, String.toList_ofList, trimStart_unescape]
  exact (unescape_span (by decide) (by decide) _).2

end

/-! ## Renaming -/

/-- What a loop may call its item and its index. -/
def IsLoopName (name : String) : Prop := name.toList ≠ [] ∧ ∀ c ∈ name.toList, isNameChar c = true

instance : DecidablePred IsLoopName := fun name =>
  decidable_of_iff (name.toList ≠ [] ∧ name.toList.all isNameChar = true) (by rw [List.all_eq_true, IsLoopName])

theorem renamePlaceholders_eq (names : List String) (n : Nat) (text : String) :
    renamePlaceholders names n text = editContents (renameContent names n) text := rfl

theorem renameRoot?_eq_some {n : Nat} {content name renamed : String} :
    renameRoot? n content name = some renamed ↔
      ∃ rest, trimStart content.toList = name.toList ++ rest ∧ endsName rest = true ∧ aliasName name n ++ .ofList rest = renamed := by
  unfold renameRoot?
  split
  · rename_i rest hafter
    rw [Option.ite_none_right_eq_some, Option.some.injEq, eq_append_of_after? hafter]
    simp
  · rename_i hnone
    refine iff_of_false (by simp) ?_
    rintro ⟨rest, hstart, -⟩
    rw [hstart, after?_append] at hnone
    cases hnone

theorem encloses_trimStart (raw : List Char) : encloses (trimStart raw) = encloses raw := by
  obtain ⟨hslash, hclosing⟩ := plain_notMem (a := raw.takeWhile isBlank) fun c hc => .inl (List.mem_takeWhile_imp hc)
  rw [← encloses_append hslash hclosing, trimStart, List.takeWhile_append_dropWhile]

/-- The alias parts the name from what follows it, which is no closing delimiter that the name may have escaped. -/
theorem encloses_alias {name : String} {rest : List Char} (hends : endsName rest = true) (n : Nat)
    (h : encloses (name.toList ++ rest) = true) : encloses (aliasName name n ++ .ofList rest).toList = true := by
  have hhead : rest.head? ≠ some '}' := by
    intro hhead
    obtain ⟨more, rfl⟩ := List.head?_eq_some_iff.1 hhead
    cases hends
  obtain ⟨hslash, hclosing⟩ := plain_notMem fun c hc => .inr (aliasPrefix_names c hc)
  obtain ⟨hslash', hclosing'⟩ := plain_notMem fun c hc => .inr (aliasEnd_names n c hc)
  rw [String.toList_append, toList_aliasName, String.toList_ofList, List.append_assoc, List.append_assoc,
    encloses_append hslash hclosing]
  exact encloses_insert hslash' hclosing' hhead h

/-- Whatever the names are, a renamed content stands between its delimiters like the one before. -/
theorem encloses_renameContent (names : List String) (n : Nat) {raw : List Char} (h : encloses raw = true) :
    encloses (renameContent names n (.ofList raw)).toList = true := by
  unfold renameContent
  cases hfind : names.findSome? (renameRoot? n (.ofList raw)) with
  | none => rwa [Option.getD_none, String.toList_ofList]
  | some renamed =>
    obtain ⟨name, -, hrename⟩ := List.exists_of_findSome?_eq_some hfind
    obtain ⟨rest, hstart, hends, rfl⟩ := renameRoot?_eq_some.1 hrename
    rw [String.toList_ofList] at hstart
    rw [← encloses_trimStart, hstart] at h
    exact encloses_alias hends n h

theorem enclosable_renameContent (names : List String) (n : Nat) {content : String} (h : Enclosable content.toList) :
    Enclosable (renameContent names n content).toList := by
  have hrenamed := encloses_renameContent names n (encloses_iff.2 h)
  rw [String.ofList_toList] at hrenamed
  exact encloses_iff.1 hrenamed

section Renaming

variable {names : List String} (hnames : ∀ x ∈ names, IsLoopName x)

include hnames

theorem leadingName_ne_nil {content : String} (h : .ofList (leadingName content) ∈ names) : leadingName content ≠ [] := by
  have hne := (hnames _ h).1
  rwa [String.toList_ofList] at hne

/-- A loop goes by the name at the front of the content and by the character after it. -/
theorem renameContent_run (n : Nat) (content : String) :
    renameContent names n content =
      if .ofList (leadingName content) ∈ names ∧ endsName (afterName content) = true then
        aliasName (.ofList (leadingName content)) n ++ .ofList (afterName content)
      else content := by
  by_cases hends : leadingName content ≠ [] ∧ endsName (afterName content) = true
  · have hrooted : Rooted content.toList (leadingName content) (afterName content) := by
      refine ⟨⟨content.toList.takeWhile isBlank, fun c hc => List.mem_takeWhile_imp hc, ?_⟩, hends.1, leadingName_chars content, hends.2⟩
      rw [leadingName_append]
      exact List.takeWhile_append_dropWhile.symm
    have hrename := hrooted.renameContent_eq (fun x hx => (hnames x hx).2) n
    rw [String.ofList_toList] at hrename
    simp only [hrename, hends.2, and_true]
  · -- A name that fits would be the one at the front.
    have hnone : ∀ x ∈ names, renameRoot? n content x = none := by
      intro x hx
      rw [Option.eq_none_iff_forall_ne_some]
      intro renamed hrename
      obtain ⟨rest, hstart, hrest, -⟩ := renameRoot?_eq_some.1 hrename
      refine hends ?_
      have hsplit := run_split (hnames x hx).2 (not_name_of_endsName hrest)
      rw [← hstart] at hsplit
      rw [leadingName, afterName, hsplit.1, hsplit.2]
      exact ⟨(hnames x hx).1, hrest⟩
    rw [renameContent, List.findSome?_eq_none_iff.2 hnone, if_neg fun h => hends ⟨leadingName_ne_nil hnames h.1, h.2⟩]
    rfl

theorem meant_renameContent (n : Nat) (raw : List Char) :
    Glyph.meant (renameContent names n (.ofList raw)).toList = renameContent names n (Glyph.meant raw) := by
  rw [renameContent_run hnames, renameContent_run hnames, leadingName_meant, afterName_meant, endsName_unescape]
  split_ifs with h
  · obtain ⟨hslash, -⟩ := plain_notMem fun c hc => .inr (aliasName_names (hnames _ h.1).2 n c hc)
    rw [Glyph.meant, String.toList_append, String.toList_ofList, unescape_append hslash, String.ofList_append, String.ofList_toList]
  · rw [String.toList_ofList]

/-- Whatever stands around them, the placeholders of a text are renamed one by one. -/
theorem tokens_renamePlaceholders (n : Nat) (s : String) :
    placeholder.tokens (renamePlaceholders names n s) = (placeholder.tokens s).map (renameContent names n) := by
  have htokens := tokens_editContents (f := renameContent names n) (s := s) fun content hmem =>
    enclosable_renameContent names n (enclosable_content hmem)
  rw [renamePlaceholders_eq, htokens, Glyph.contents_keep, Glyph.tokens_eq, List.map_map, List.map_map]
  exact List.map_congr_left fun raw _ => meant_renameContent hnames n raw

end Renaming

end SqlTemplate
