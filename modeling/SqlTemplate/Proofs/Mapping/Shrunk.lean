import SqlTemplate.Proofs.Mapping.Spelling
import SqlTemplate.Proofs.Token.Shrink

/-! # Extracting from a shrunk text

A marker takes the place of a placeholder, and neither of them begins or ends with a blank. So blanks may be taken away before or after
the markers are written. The properties of the mappings are those of the text as it was, but for runs of blanks inside them.
-/

namespace SqlTemplate

open Text

/-! ## Markers -/

namespace MarkerStyle

/-- The units with escapes dropped and with markers for the tokens, the first of them at a position. -/
def written (style : MarkerStyle) : Nat → List Glyph → List Char
  | _, [] => []
  | n, .char c :: gs => c :: style.written n gs
  | n, .escape :: gs => '#' :: '{' :: style.written n gs
  | n, .token _ :: gs => (style.marker n).toList ++ style.written (n + 1) gs

variable {style : MarkerStyle} {n : Nat} {gs hs : List Glyph}

theorem written_append :
    style.written n (gs ++ hs) = style.written n gs ++ style.written (n + (Glyph.raws gs).length) hs := by
  induction gs generalizing n with
  | nil => rfl
  | cons g gs ih => cases g <;> simp [written, ih, Nat.add_assoc, Nat.add_comm 1]

@[simp]
theorem written_chars (cs : List Char) : style.written n (Glyph.chars cs) = cs := by
  induction cs with
  | nil => rfl
  | cons c cs ih => rw [Glyph.chars_cons, written, ih]

theorem toList_markFrom (lexemes : List Lexeme) :
    (String.join (style.markFrom n (lexemes.map (placeholder.piece .drop)))).toList =
      style.written n (lexemes.flatMap Glyph.ofLexeme) := by
  induction lexemes generalizing n with
  | nil => rfl
  | cons lexeme lexemes ih =>
    rw [List.map_cons, List.flatMap_cons, written_append]
    cases lexeme with
    | text cs => simp [Delimiters.piece, markFrom, ih, Glyph.ofLexeme]
    | escape before =>
      have hopening : placeholder.opening = ['#', '{'] := rfl
      simp [Delimiters.piece, markFrom, ih, Glyph.ofLexeme, written_append, written, Delimiters.Escapes.mark, hopening]
    | token parts => simp [Delimiters.piece, markFrom, ih, Glyph.ofLexeme, written]

theorem mark_eq_written (style : MarkerStyle) (s : String) : style.mark s = .ofList (style.written 1 (Glyph.read s.toList)) := by
  apply String.toList_injective
  rw [String.toList_ofList]
  exact toList_markFrom _

theorem marker_word (style : MarkerStyle) (n : Nat) :
    ∃ c cs, (style.marker n).toList = c :: cs ∧ ∀ d ∈ c :: cs, isBlank d = false := by
  cases style with
  | question => exact ⟨'?', [], by rw [marker]; rfl, by simp [isBlank]⟩
  | numbered =>
    refine ⟨'$', Nat.toDigits 10 n, ?_, List.forall_mem_cons.2 ⟨rfl, fun d hd => ?_⟩⟩
    · rw [marker, String.toList_append]
      simp
    · exact isBlank_of_isDigit (Number.isDigit_toDigits n d hd)

theorem head?_written_blank (style : MarkerStyle) (n : Nat) (gs : List Glyph) :
    (style.written n gs).head?.any isBlank = gs.head?.any Glyph.blank := by
  cases gs with
  | nil => rfl
  | cons g gs =>
    cases g with
    | char c => rfl
    | escape => rfl
    | token raw =>
      obtain ⟨c, cs, hmarker, hword⟩ := style.marker_word n
      rw [written, hmarker]
      exact hword c List.mem_cons_self

theorem written_squeezed (n : Nat) (gs : List Glyph) : style.written n (Glyph.squeezed gs) = squeeze (style.written n gs) := by
  induction gs generalizing n with
  | nil => rfl
  | cons g gs ih =>
    cases g with
    | char c =>
      rw [Glyph.squeezed, written, squeeze, head?_written_blank]
      split_ifs
      · exact ih n
      · rw [written, ih]
      · rw [written, ih]
    | escape => rw [Glyph.squeezed, written, written, ih, squeeze_cons_word rfl, squeeze_cons_word rfl]
    | token raw =>
      obtain ⟨c, cs, hmarker, hword⟩ := style.marker_word n
      rw [Glyph.squeezed, written, written, ih, hmarker, squeeze_append_word hword]

theorem head?_written (h : ∀ c ∈ (Glyph.text gs).head?, isBlank c = false) :
    ∀ c ∈ (style.written n gs).head?, isBlank c = false := by
  intro c hc
  have hblank := style.head?_written_blank n gs
  rw [← Glyph.head?_text_blank, Option.mem_def.1 hc, Option.any_some] at hblank
  rw [hblank]
  cases htext : (Glyph.text gs).head? with
  | none => rfl
  | some d => exact h d htext

theorem getLast?_written (h : ∀ c ∈ (Glyph.text gs).getLast?, isBlank c = false) :
    ∀ c ∈ (style.written n gs).getLast?, isBlank c = false := by
  induction gs using List.reverseRecOn with
  | nil => exact h
  | append_singleton gs g _ =>
    rw [written_append]
    cases g with
    | char c =>
      have htext : Glyph.text (gs ++ [.char c]) = Glyph.text gs ++ [c] := by simp [Glyph.source]
      rw [htext] at h
      rw [written, written]
      simpa using h
    | escape => simp [written, isBlank]
    | token raw =>
      obtain ⟨c, cs, hmarker, hword⟩ := style.marker_word (n + (Glyph.raws gs).length)
      rw [written, written, hmarker, List.append_nil]
      intro d hd
      rw [List.getLast?_append_of_ne_nil _ (List.cons_ne_nil c cs)] at hd
      exact hword d (List.mem_of_mem_getLast? hd)

theorem written_trim (n : Nat) (cs : List Char) : style.written n (Glyph.read (trim cs)) = trim (style.written n (Glyph.read cs)) := by
  obtain ⟨before, after, hbefore, hafter, heq⟩ := Glyph.read_eq_trim cs
  have htext := Glyph.text_read (trim cs)
  rw [heq, written_append, written_append, written_chars, written_chars, Glyph.raws_chars, List.length_nil, Nat.add_zero,
    ← List.append_assoc, trim_around hbefore hafter]
  · exact head?_written (by rw [htext]; exact head?_trim cs)
  · exact getLast?_written (by rw [htext]; exact getLast?_trim cs)

/-- Blanks may be taken away before the markers are written or after. -/
theorem mark_shrinkString (style : MarkerStyle) (s : String) : style.mark (shrinkString s) = shrinkString (style.mark s) := by
  rw [mark_eq_written, mark_eq_written, shrinkString, shrinkString, String.toList_ofList, String.toList_ofList, shrink_eq, shrink_eq,
    written_trim, Glyph.read_squeeze, written_squeezed]

end MarkerStyle

/-! ## Mappings -/

namespace Placeholder

variable {content : String} {p q : Placeholder}

theorem property_eq (h : parse content = .ok p) : p.property = .ofList (trim ((trimStart content.toList).takeWhile isNamePart)) := by
  rw [parse] at h
  dsimp only at h
  split_ifs at h
  obtain ⟨_, -, rfl⟩ := Computation.except_map_ok.1 h
  rfl

/-- The property of a shrunk content is the property shrunk. -/
theorem property_squeeze (hp : parse content = .ok p) (hq : parse (.ofList (squeeze content.toList)) = .ok q) :
    q.property = shrinkString p.property := by
  rw [property_eq hp, property_eq hq, shrinkString, String.toList_ofList, String.toList_ofList, trimStart_squeeze,
    takeWhile_squeeze fun _ => isNamePart_of_isBlank, shrink_eq, ← squeeze_trim, ← squeeze_trim, trim_trim]

end Placeholder

/-- The other statement is this one shrunk, with the same properties in the same order but for runs of blanks inside them. -/
def MarkedSql.ShrinksTo (marked shrunk : MarkedSql) : Prop :=
  shrunk.sql = shrinkString marked.sql ∧
    List.Forall₂ (fun m n : ParameterMapping => n.property = shrinkString m.property) marked.mappings shrunk.mappings

open SqlTemplate.Computation in
/-- What is extracted from a shrunk text is what is extracted from the text, shrunk. -/
theorem Scope.extract_shrinkString {s : Scope} {style : MarkerStyle} {sql : String} {r r' : Registry} {marked shrunk : MarkedSql}
    (h : (run (s.extract style sql) r).1 = .ok marked) (h' : (run (s.extract style (shrinkString sql)) r').1 = .ok shrunk) :
    marked.ShrinksTo shrunk := by
  obtain ⟨hsql, hreads⟩ := extract_ok (Prod.ext h rfl)
  obtain ⟨hsql', hreads'⟩ := extract_ok (Prod.ext h' rfl)
  rw [tokens_shrinkString, List.forall₂_map_left_iff] at hreads'
  refine ⟨by rw [hsql, hsql', MarkerStyle.mark_shrinkString], (forall₂_join hreads hreads').imp ?_⟩
  rintro m n ⟨content, ⟨p, hp, hm, -⟩, q, hq, hn, -⟩
  rw [hm, hn, Placeholder.property_squeeze hp hq]

end SqlTemplate
