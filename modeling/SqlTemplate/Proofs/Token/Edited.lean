import SqlTemplate.Proofs.Token.Shrink
import SqlTemplate.Proofs.Token.Walk

/-! # Editing the contents of placeholders

An edit that puts a new content into every placeholder leaves the rest of the text and its tokens what they were, if the new contents
can stand between delimiters. So it does not matter whether contents are edited one time after the other or at once.
-/

namespace SqlTemplate

open Text

/-- The second run is the first one, but for the content of a token, which is edited. -/
inductive Lexeme.Edited (f : String → String) : Lexeme → Lexeme → Prop
  | text (cs : List Char) : Edited f (.text cs) (.text cs)
  | escape (before : List Char) : Edited f (.escape before) (.escape before)
  | token {parts parts' : List (List Char)}
    (h : String.ofList (Delimiters.rawOf parts') = f (.ofList (Delimiters.rawOf parts))) :
    Edited f (.token parts) (.token parts')

/-- The text with the contents of its placeholders edited. -/
def editContents (f : String → String) (text : String) : String :=
  placeholder.edit (m := Id) (fun content => placeholder.enclose (f content)) text

/-! ## The tokens of an edited text -/

/-- The piece with its content edited. -/
def Piece.edit (f : String → String) : Piece → Piece
  | .text s => .text s
  | .token content => .token (f content)

namespace Lexeme.Edited

variable {f : String → String} {l l' : Lexeme}

theorem piece (h : Edited f l l') : placeholder.piece .keep l' = (placeholder.piece .keep l).edit f := by
  cases h with
  | text cs => rfl
  | escape before => rfl
  | token h => exact congrArg Piece.token h

theorem units (h : Edited f l l') :
    Glyph.ofLexeme l' = (Glyph.ofLexeme l).map (Glyph.mapRaw fun raw => (f (.ofList raw)).toList) := by
  cases h with
  | text cs => exact (Glyph.map_chars _ cs).symm
  | escape before =>
    rw [Glyph.ofLexeme, List.map_append, Glyph.map_chars]
    rfl
  | token h => rw [Glyph.ofLexeme, Glyph.ofLexeme, List.map_singleton, Glyph.mapRaw, ← h, String.toList_ofList]

/-- What is made of each run tells what is made of all. -/
theorem map_eq {α : Type} {g g' : Lexeme → α} {ls ls' : List Lexeme} (h : List.Forall₂ (Edited f) ls ls')
    (hg : ∀ {l l'}, Edited f l l' → g' l' = g l) : ls'.map g' = ls.map g := by
  rw [← List.forall₂_eq_eq_eq, List.forall₂_map_left_iff, List.forall₂_map_right_iff]
  exact h.flip.imp fun _ _ => hg

end Lexeme.Edited

theorem edited_textRun (f : String → String) (cs : List Char) :
    List.Forall₂ (Lexeme.Edited f) (Delimiters.textRun cs) (Delimiters.textRun cs) := by
  cases cs with
  | nil => exact .nil
  | cons c cs => exact .cons (.text _) .nil

namespace Glyph

variable {f : String → String}

theorem enclosable_of_mem_raws {cs raw : List Char} (h : raw ∈ raws (read cs)) : Enclosable raw := by
  induction cs using opening_induction with
  | plain cs hfree => simp [read_plain hfree] at h
  | escape before after hfree ih =>
    refine ih ?_
    simpa [read_to_escape hfree] using h
  | token before raw' rest hfree hlast henclosed ih =>
    rw [read_to_token hfree hlast henclosed, raws_append, raws_chars, List.nil_append, raws_cons_token, List.mem_cons] at h
    rcases h with rfl | h
    · exact encloses_iff.1 henclosed
    · exact ih h
  | unended before after hfree hlast hend =>
    rw [read_to_unended hfree hlast hend, raws_chars] at h
    cases h

theorem lexemes_edited {cs : List Char} (h : ∀ raw ∈ raws (read cs), Enclosable (f (.ofList raw)).toList) :
    List.Forall₂ (Lexeme.Edited f) (placeholder.lexemes cs)
      (placeholder.lexemes (text ((read cs).map (mapRaw fun raw => (f (.ofList raw)).toList)))) := by
  induction cs using opening_induction with
  | plain cs hfree =>
    rw [read_plain hfree, map_chars, text_chars, lexemes_plain hfree]
    exact edited_textRun f cs
  | escape before after hfree ih =>
    rw [read_to_escape hfree] at h ⊢
    have hrest := ih fun raw hmem => h raw (by simpa using hmem)
    rw [List.map_append, map_chars, List.map_cons, text_append, text_chars, text_cons]
    change List.Forall₂ _ _ (placeholder.lexemes (before ++ '\\' :: '#' :: '{' :: text _))
    rw [lexemes_to_escape hfree, lexemes_to_escape hfree]
    exact .cons (.escape before) hrest
  | token before raw rest hfree hlast henclosed ih =>
    rw [read_to_token hfree hlast henclosed] at h ⊢
    have hrest := ih fun raw' hmem => h raw' (by simp [hmem])
    have hnew := h raw (by simp)
    rw [List.map_append, map_chars, List.map_cons, text_append, text_chars, text_cons, mapRaw, source]
    simp only [List.cons_append, List.append_assoc, List.nil_append]
    obtain ⟨parts, hparts, -, hlexemes⟩ := lexemes_to_token hfree hlast henclosed rest
    obtain ⟨parts', hparts', -, hlexemes'⟩ := lexemes_to_token hfree hlast (encloses_iff.2 hnew)
      (text ((read rest).map (mapRaw fun raw => (f (.ofList raw)).toList)))
    rw [hlexemes, hlexemes']
    refine List.rel_append (edited_textRun f before) (.cons (.token ?_) hrest)
    rw [hparts, hparts', String.ofList_toList]
  | unended before after hfree hlast hend =>
    rw [read_to_unended hfree hlast hend, map_chars, text_chars, lexemes_to_unended hfree hlast hend]
    exact List.rel_append (edited_textRun f before) (.cons (.text _) .nil)

end Glyph

/-! ## Passes over an edited text -/

section Passes

variable {f : String → String} {s : String}
  (h : ∀ content ∈ Piece.contents (placeholder.pieces .keep s), Enclosable (f content).toList)

theorem enclosable_content {content : String} (hmem : content ∈ Piece.contents (placeholder.pieces .keep s)) :
    Enclosable content.toList := by
  rw [Glyph.contents_keep, List.mem_map] at hmem
  obtain ⟨raw, hraw, rfl⟩ := hmem
  rw [String.toList_ofList]
  exact Glyph.enclosable_of_mem_raws hraw

theorem editContents_self (s : String) : editContents (fun content => content) s = s :=
  (placeholder.edit_pure _ s).trans (placeholder.join_enclosed s)

include h

theorem enclosable_raws : ∀ raw ∈ Glyph.raws (Glyph.read s.toList), Enclosable (f (.ofList raw)).toList :=
  fun _ hraw => h _ (Glyph.contents_keep s ▸ List.mem_map_of_mem hraw)

theorem lexemes_editContents :
    List.Forall₂ (Lexeme.Edited f) (placeholder.lexemes s.toList) (placeholder.lexemes (editContents f s).toList) := by
  rw [editContents, Glyph.edit_eq, String.toList_ofList]
  exact Glyph.lexemes_edited (enclosable_raws h)

/-- Editing contents leaves the units of a text what they are, also where a placeholder is never closed. -/
theorem read_editContents :
    Glyph.read (editContents f s).toList = (Glyph.read s.toList).map (Glyph.mapRaw fun raw => (f (.ofList raw)).toList) := by
  rw [Glyph.read, Glyph.read, List.map_flatMap, List.flatMap_def, List.flatMap_def]
  exact congrArg List.flatten (Lexeme.Edited.map_eq (lexemes_editContents h) Lexeme.Edited.units)

theorem contents_editContents :
    Piece.contents (placeholder.pieces .keep (editContents f s)) = (Piece.contents (placeholder.pieces .keep s)).map f := by
  rw [Glyph.contents_keep, Glyph.contents_keep, read_editContents h, Glyph.raws_map, List.map_map, List.map_map]
  exact List.map_congr_left fun _ _ => String.ofList_toList

theorem tokens_editContents :
    placeholder.tokens (editContents f s) =
      (Piece.contents (placeholder.pieces .keep s)).map fun content => Glyph.meant (f content).toList := by
  rw [Glyph.tokens_eq, Glyph.contents_keep, read_editContents h, Glyph.raws_map, List.map_map, List.map_map]
  rfl

theorem pieces_editContents :
    placeholder.pieces .keep (editContents f s) = (placeholder.pieces .keep s).map (Piece.edit f) := by
  rw [Delimiters.pieces, Delimiters.pieces, List.map_map]
  exact Lexeme.Edited.map_eq (lexemes_editContents h) Lexeme.Edited.piece

/-- A later edit meets the new contents where it would meet the old ones. -/
theorem edit_editContents {m : Type → Type} [Monad m] [LawfulMonad m] (g : String → m String) :
    placeholder.edit g (editContents f s) = placeholder.edit (fun content => g (f content)) s := by
  unfold Delimiters.edit Delimiters.replace
  rw [pieces_editContents h, List.mapM_map]
  congr 2
  funext piece
  cases piece <;> rfl

/-- Contents that are edited twice can be edited once. -/
theorem editContents_editContents (g : String → String) :
    editContents g (editContents f s) = editContents (fun content => g (f content)) s :=
  edit_editContents h _

end Passes

/-- Contents that are edited over and over can be edited once. -/
theorem foldl_editContents {fs : List (String → String)} {s : String}
    (h : ∀ content ∈ Piece.contents (placeholder.pieces .keep s), ∀ c ∈ (fs.scanl (fun c f => f c) content).tail, Enclosable c.toList) :
    fs.foldl (fun t f => editContents f t) s = editContents (fun content => fs.foldl (fun c f => f c) content) s := by
  induction fs generalizing s with
  | nil => exact (editContents_self s).symm
  | cons f fs ih =>
    simp only [List.scanl_cons, List.tail_cons] at h
    have hfirst : ∀ content ∈ Piece.contents (placeholder.pieces .keep s), Enclosable (f content).toList := by
      intro content hmem
      refine h content hmem _ ?_
      cases fs <;> simp
    rw [List.foldl_cons, ih, editContents_editContents hfirst]
    · rfl
    · rw [contents_editContents hfirst, List.forall_mem_map]
      exact fun content hmem c hc => h content hmem c (List.mem_of_mem_tail hc)

/-- Blanks around a text are no matter to its placeholders. -/
theorem trimString_editContents (f : String → String) (s : String) :
    trimString (editContents f (trimString s)) = trimString (editContents f s) := by
  obtain ⟨before, after, hbefore, hafter, heq⟩ := Glyph.read_eq_trim s.toList
  rw [editContents, editContents, Glyph.edit_eq, Glyph.edit_eq, heq, trimString, trimString, trimString]
  simp only [String.toList_ofList, List.map_append, Glyph.text_append, Glyph.map_chars, Glyph.text_chars]
  rw [trim_blanks hbefore hafter]

end SqlTemplate
