import SqlTemplate.Proofs.Token.Tidy

/-! # Shrinking texts with placeholders

Shrinking a text shrinks the contents of its placeholders and leaves the placeholders what they are. One that is never closed stays
so, and no delimiter and no escape comes about where blanks are taken away.
-/

namespace SqlTemplate

open Text

variable {c : Char} {cs : List Char}

/-! ## Escapes -/

theorem encloses_squeeze (cs : List Char) : encloses (squeeze cs) = encloses cs := by
  induction cs using encloses.induct with
  | case1 => rfl
  | case2 cs ih =>
    have hsqueeze : squeeze ('\\' :: '}' :: cs) = '\\' :: '}' :: squeeze cs := by
      rw [squeeze_cons_word rfl, squeeze_cons_word rfl]
    rw [hsqueeze, encloses, encloses, ih]
  | case3 cs =>
    rw [squeeze_cons_word rfl, encloses, encloses]
  | case4 => rfl
  | case5 c cs hescape hclosing hlast ih =>
    have hc : c ≠ '}' := hclosing
    have hafter : c = '\\' → cs ≠ [] ∧ cs.head? ≠ some '}' := by
      refine fun hc => ⟨fun hnil => hlast hc hnil, fun hhead => ?_⟩
      obtain ⟨rest, rfl⟩ := List.head?_eq_some_iff.1 hhead
      exact hescape rest hc rfl
    rw [encloses_cons hc hafter]
    cases hb : isBlank c with
    | true =>
      rcases squeeze_cons_space hb cs with heq | heq <;> rw [heq]
      · exact ih
      · rw [encloses_cons (by decide) (fun heq => absurd heq (by decide)), ih]
    | false =>
      rw [squeeze_cons_word hb, encloses_cons hc fun hslash => ?_, ih]
      obtain ⟨hne, hhead⟩ := hafter hslash
      exact ⟨squeeze_ne_nil hne, fun heq => hhead (head?_squeeze_of heq rfl)⟩

theorem head?_unescape_blank (cs : List Char) : (unescape cs).head?.any isBlank = cs.head?.any isBlank := by
  induction cs using unescape.induct with
  | case1 cs => simp [unescape, isBlank]
  | case2 c cs hescape =>
    rw [unescape_cons]
    · rfl
    · intro hc hhead
      obtain ⟨rest, rfl⟩ := List.head?_eq_some_iff.1 hhead
      exact hescape rest hc rfl
  | case3 => rfl

theorem unescape_squeeze (cs : List Char) : unescape (squeeze cs) = squeeze (unescape cs) := by
  induction cs using unescape.induct with
  | case1 cs ih =>
    have hsqueeze : squeeze ('\\' :: '}' :: cs) = '\\' :: '}' :: squeeze cs := by
      rw [squeeze_cons_word rfl, squeeze_cons_word rfl]
    rw [hsqueeze, unescape, unescape, squeeze_cons_word rfl, ih]
  | case2 c cs hescape ih =>
    have hafter : c = '\\' → cs.head? ≠ some '}' := by
      intro hc hhead
      obtain ⟨rest, rfl⟩ := List.head?_eq_some_iff.1 hhead
      exact hescape rest hc rfl
    rw [unescape_cons hafter]
    cases hb : isBlank c with
    | true =>
      rw [squeeze, squeeze, if_pos hb, if_pos hb, head?_unescape_blank]
      split_ifs
      · exact ih
      · rw [unescape_cons (fun heq => absurd heq (by decide)), ih]
    | false =>
      rw [squeeze_cons_word hb, squeeze_cons_word hb, unescape_cons fun hc heq => ?_, ih]
      exact hafter hc (head?_squeeze_of heq rfl)
  | case3 => rfl

/-! ## Unit by unit -/

namespace Glyph

/-- Every run of blanks is one space, inside the placeholders and between them. -/
def squeezed : List Glyph → List Glyph
  | [] => []
  | .char c :: gs =>
    if isBlank c then if gs.head?.any blank then squeezed gs else .char ' ' :: squeezed gs
    else .char c :: squeezed gs
  | .escape :: gs => .escape :: squeezed gs
  | .token raw :: gs => .token (squeeze raw) :: squeezed gs

theorem head?_text_blank (gs : List Glyph) : (text gs).head?.any isBlank = gs.head?.any blank := by
  cases gs with
  | nil => rfl
  | cons g gs => cases g <;> rfl

theorem raws_squeezed (gs : List Glyph) : raws (squeezed gs) = (raws gs).map squeeze := by
  induction gs with
  | nil => rfl
  | cons g gs ih =>
    cases g with
    | char c =>
      rw [Glyph.squeezed]
      split_ifs <;> exact ih
    | escape => exact ih
    | token raw => exact congrArg (squeeze raw :: ·) ih

theorem squeezed_chars_append (cs : List Char) (gs : List Glyph) (h : ∀ g ∈ gs.head?, blank g = false) :
    squeezed (chars cs ++ gs) = chars (squeeze cs) ++ squeezed gs := by
  induction cs with
  | nil => rfl
  | cons c cs ih =>
    have hhead : (chars cs ++ gs).head?.any blank = cs.head?.any isBlank := by
      cases cs with
      | nil =>
        cases gs with
        | nil => rfl
        | cons g gs => exact h g rfl
      | cons d cs => rfl
    rw [chars_cons, List.cons_append, Glyph.squeezed, squeeze, hhead, ih]
    split_ifs <;> rfl

theorem squeezed_chars (cs : List Char) : squeezed (chars cs) = chars (squeeze cs) := by
  have hchars := squeezed_chars_append cs [] (by simp)
  rwa [List.append_nil, Glyph.squeezed, List.append_nil] at hchars

/-! ## Reading a shrunk text -/

theorem unopened_squeeze (h : Unopened cs) : Unopened (squeeze cs) := by
  induction cs with
  | nil => exact h
  | cons c cs ih =>
    rw [unopened_cons] at h
    cases hc : isBlank c with
    | true =>
      rcases squeeze_cons_space hc cs with heq | heq <;> rw [heq]
      · exact ih h.2
      · exact unopened_cons.2 ⟨fun heq => absurd heq (by decide), ih h.2⟩
    | false =>
      rw [squeeze_cons_word hc]
      exact unopened_cons.2 ⟨fun heq hhead => h.1 heq (head?_squeeze_of hhead rfl), ih h.2⟩

theorem unended_squeeze (h : Unended cs) : Unended (squeeze cs) := by
  intro raw rest heq
  obtain ⟨raw, rest, rfl, rfl, -⟩ := append_of_squeeze rfl heq
  rw [encloses_squeeze]
  exact h raw rest rfl

theorem read_squeeze (cs : List Char) : read (squeeze cs) = squeezed (read cs) := by
  have hlast {before : List Char} (h : before.getLast? ≠ some '\\') : (squeeze before).getLast? ≠ some '\\' :=
    fun heq => h (getLast?_squeeze_of heq rfl)
  have hopening (before after : List Char) : squeeze (before ++ '#' :: '{' :: after) = squeeze before ++ '#' :: '{' :: squeeze after := by
    rw [squeeze_append (by simp [isBlank]), squeeze_cons_word rfl, squeeze_cons_word rfl]
  induction cs using opening_induction with
  | plain cs hfree => rw [read_plain (unopened_squeeze hfree), read_plain hfree, squeezed_chars]
  | escape before after hfree ih =>
    rw [squeeze_append (by simp [isBlank]), squeeze_cons_word rfl, squeeze_cons_word rfl, squeeze_cons_word rfl,
      read_to_escape (unopened_squeeze hfree), read_to_escape hfree, ih, squeezed_chars_append _ (escape :: read after) (by simp [blank]),
      Glyph.squeezed]
  | token before raw rest hfree hlast' henclosed ih =>
    rw [hopening, squeeze_append (by simp [isBlank]), squeeze_cons_word rfl,
      read_to_token (unopened_squeeze hfree) (hlast hlast') ((encloses_squeeze raw).trans henclosed), read_to_token hfree hlast' henclosed,
      ih, squeezed_chars_append _ (token raw :: read rest) (by simp [blank]), Glyph.squeezed]
  | unended before after hfree hlast' hend =>
    rw [read_to_unended hfree hlast' hend, squeezed_chars, hopening,
      read_to_unended (unopened_squeeze hfree) (hlast hlast') (unended_squeeze hend)]

theorem read_blank_append {blanks : List Char} (h : ∀ c ∈ blanks, isBlank c = true) (cs : List Char) :
    read (blanks ++ cs) = chars blanks ++ read cs := by
  induction blanks with
  | nil => rfl
  | cons c blanks ih =>
    rw [List.forall_mem_cons] at h
    rw [List.cons_append, read_char, ih h.2, chars_cons, List.cons_append]
    · rintro rfl
      exact absurd h.1 (by decide)
    · rintro rfl
      exact absurd h.1 (by decide)

theorem read_append_blank {blanks : List Char} (h : ∀ c ∈ blanks, isBlank c = true) (cs : List Char) :
    read (cs ++ blanks) = read cs ++ chars blanks := by
  have hblanks : read blanks = chars blanks := by simpa using read_blank_append h []
  induction cs using opening_induction with
  | plain cs hfree =>
    rw [read_chars_append hfree, read_plain hfree, hblanks]
    · intro hhead
      exact absurd (h _ (List.mem_of_mem_head? hhead)) (by decide)
    · rintro - ⟨rest, rfl⟩
      exact absurd (h '#' List.mem_cons_self) (by decide)
  | escape before after hfree ih =>
    simp only [List.append_assoc, List.cons_append]
    rw [read_to_escape hfree, read_to_escape hfree, ih, List.append_assoc, List.cons_append]
  | token before raw rest hfree hlast henclosed ih =>
    simp only [List.append_assoc, List.cons_append]
    rw [read_to_token hfree hlast henclosed, read_to_token hfree hlast henclosed, ih, List.append_assoc, List.cons_append]
  | unended before after hfree hlast hend =>
    -- Blanks have no closing delimiter, so that the token has no end in them either.
    have hend' : Unended (after ++ blanks) := by
      intro raw rest heq
      obtain ⟨more, rfl, hblank⟩ | ⟨more, rfl, hrest⟩ := List.append_eq_append_iff.1 heq
      · exact absurd (h '}' (by simp [hblank])) (by decide)
      · cases more with
        | nil =>
          rw [List.nil_append] at hrest
          exact absurd (h '}' (hrest ▸ List.mem_cons_self)) (by decide)
        | cons c more =>
          cases hrest
          exact hend raw more rfl
    rw [read_to_unended hfree hlast hend, List.append_assoc, List.cons_append, List.cons_append, read_to_unended hfree hlast hend']
    simp [chars]

/-- Trimming takes away the characters that are blank and no other units. -/
theorem read_eq_trim (cs : List Char) :
    ∃ before after, (∀ c ∈ before, isBlank c = true) ∧ (∀ c ∈ after, isBlank c = true) ∧
      read cs = chars before ++ (read (Text.trim cs) ++ chars after) := by
  obtain ⟨before, after, hbefore, hafter, heq⟩ := eq_trim cs
  refine ⟨before, after, hbefore, hafter, ?_⟩
  conv_lhs => rw [heq, read_blank_append hbefore, read_append_blank hafter]

theorem raws_read_shrink (cs : List Char) : raws (read (shrink cs)) = (raws (read cs)).map squeeze := by
  obtain ⟨before, after, -, -, heq⟩ := read_eq_trim (squeeze cs)
  rw [shrink_eq, ← raws_squeezed, ← read_squeeze, heq, raws_append, raws_append, raws_chars, raws_chars, List.append_nil,
    List.nil_append]

end Glyph

/-- Shrinking a text shrinks what stands in its placeholders, and nothing else becomes a placeholder. -/
theorem tokens_shrinkString (s : String) :
    placeholder.tokens (shrinkString s) = (placeholder.tokens s).map fun content => .ofList (squeeze content.toList) := by
  rw [Glyph.tokens_eq, Glyph.tokens_eq, shrinkString, String.toList_ofList, Glyph.raws_read_shrink, List.map_map, List.map_map]
  refine List.map_congr_left fun raw _ => ?_
  simp only [Function.comp_apply, Glyph.meant, unescape_squeeze, String.toList_ofList]

end SqlTemplate
