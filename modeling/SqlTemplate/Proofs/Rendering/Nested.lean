import SqlTemplate.Proofs.Rendering.Renaming
import SqlTemplate.Proofs.Rendering.Turn

/-! # Renaming by nested loops

A text is renamed by every loop around it, each time with the placeholders that the inner loops left. No renaming disturbs the rest
of the text, so that all of them together are one.
-/

namespace SqlTemplate

open Text

/-- What becomes of the content of a placeholder in turns of nested loops, the innermost loop first. -/
def renameNested (turns : List (Loop × Nat)) (content : String) : String :=
  turns.foldl (fun content turn => renameContent turn.1.names turn.2 content) content

theorem enclosable_renameNested (turns : List (Loop × Nat)) {content : String} (h : Enclosable content.toList) :
    Enclosable (renameNested turns content).toList := by
  unfold renameNested
  induction turns generalizing content with
  | nil => exact h
  | cons turn turns ih => exact ih (enclosable_renameContent _ _ h)

/-- The renamings of nested loops are one renaming. -/
theorem foldl_renamePlaceholders (turns : List (Loop × Nat)) (text : String) :
    turns.foldl (fun text turn => renamePlaceholders turn.1.names turn.2 text) text = editContents (renameNested turns) text := by
  induction turns using List.reverseRecOn with
  | nil => exact (editContents_self text).symm
  | append_singleton turns turn ih =>
    rw [List.foldl_concat, ih, renamePlaceholders_eq, editContents_editContents]
    · congr 1
      funext content
      rw [renameNested, renameNested, List.foldl_concat]
    · exact fun content hmem => enclosable_renameNested turns (enclosable_content hmem)

/-- A loop takes the blanks around its text away, which the next renaming does not depend on. -/
theorem trimString_foldl_finished (turns : List (Loop × Nat)) (text : String) :
    trimString (turns.foldl (fun text turn => turn.1.finished turn.2 text) text) =
      trimString (turns.foldl (fun text turn => renamePlaceholders turn.1.names turn.2 text) text) := by
  have htrim (s : String) : trimString (trimString s) = trimString s := by
    rw [trimString, trimString, String.toList_ofList, trim_trim]
  have hrename (names : List String) (n : Nat) (s : String) :
      trimString (renamePlaceholders names n (trimString s)) = trimString (renamePlaceholders names n s) :=
    trimString_editContents (renameContent names n) s
  induction turns using List.reverseRecOn with
  | nil => rfl
  | append_singleton turns turn ih =>
    rw [List.foldl_concat, List.foldl_concat, Loop.finished, htrim, ← hrename, ih, hrename]

/-- If the new contents can stand between delimiters, a text whose placeholders get new contents is the same text otherwise: literal
texts, escapes and what is never closed stand where they stood, and a later edit meets the new contents in their order. So contents
that are edited over and over can be edited once, and the renamings of nested loops are one renaming, also with the blanks taken
away between them. -/
theorem edits_keep_tokens :
    (∀ (f : String → String) (text : String),
      (∀ content ∈ Piece.contents (placeholder.pieces .keep text), Enclosable (f content).toList) →
        Piece.contents (placeholder.pieces .keep (editContents f text)) = (Piece.contents (placeholder.pieces .keep text)).map f ∧
        List.Forall₂ (Lexeme.Edited f) (placeholder.lexemes text.toList) (placeholder.lexemes (editContents f text).toList) ∧
        (∀ (m : Type → Type) [Monad m] [LawfulMonad m] (g : String → m String),
          placeholder.edit g (editContents f text) = placeholder.edit (fun content => g (f content)) text) ∧
        placeholder.tokens (editContents f text) =
          (Piece.contents (placeholder.pieces .keep text)).map fun content => Glyph.meant (f content).toList) ∧
    (∀ (fs : List (String → String)) (text : String),
      (∀ content ∈ Piece.contents (placeholder.pieces .keep text),
        ∀ c ∈ (fs.scanl (fun c f => f c) content).tail, Enclosable c.toList) →
          fs.foldl (fun t f => editContents f t) text = editContents (fun content => fs.foldl (fun c f => f c) content) text) ∧
    ∀ (turns : List (Loop × Nat)) (text : String),
      turns.foldl (fun text turn => renamePlaceholders turn.1.names turn.2 text) text = editContents (renameNested turns) text ∧
        trimString (turns.foldl (fun text turn => turn.1.finished turn.2 text) text) =
          trimString (editContents (renameNested turns) text) ∧
        placeholder.tokens (turns.foldl (fun text turn => renamePlaceholders turn.1.names turn.2 text) text) =
          (Piece.contents (placeholder.pieces .keep text)).map fun content => Glyph.meant (renameNested turns content).toList := by
  refine ⟨fun f text h => ⟨contents_editContents h, lexemes_editContents h, fun m _ _ g => edit_editContents h g,
    tokens_editContents h⟩, fun fs text h => foldl_editContents h, fun turns text => ?_⟩
  have hturns := foldl_renamePlaceholders turns text
  refine ⟨hturns, (trimString_foldl_finished turns text).trans (congrArg trimString hturns), ?_⟩
  rw [hturns]
  exact tokens_editContents fun content hmem => enclosable_renameNested turns (enclosable_content hmem)

/-- An opening delimiter is escaped, the contents hold escaped closing ones and are empty, tokens stand side by side and after half a
delimiter, and the last one is never closed. -/
theorem edits_keep_tokens_escapes :
    let text := "\\#\x7ba\x7d ##\x7bb\\\x7dc\x7d#\x7b\x7d \\\\#\x7bx\x7d#\x7b i.j \x7d\\#\x7b #\x7bd \\\x7d"
    let f : String → String := fun content => "\\\x7d" ++ content ++ "\\\x7d#\x7b"
    let g : String → String := fun content => content ++ "!"
    Piece.contents (placeholder.pieces .keep text) = ["b\\\x7dc", "", " i.j "] ∧
      (∀ content ∈ Piece.contents (placeholder.pieces .keep text), Enclosable (f content).toList) ∧
      (∀ content ∈ Piece.contents (placeholder.pieces .keep text),
        ∀ c ∈ ([f, g].scanl (fun c f => f c) content).tail, Enclosable c.toList) ∧
      Piece.contents (placeholder.pieces .keep (editContents f text)) = ["b\\\x7dc", "", " i.j "].map f ∧
      editContents g (editContents f text) = editContents (fun content => g (f content)) text := by
  intro text f g
  have hcontents : Piece.contents (placeholder.pieces .keep text) = ["b\\\x7dc", "", " i.j "] := by decide +kernel
  have hf : ∀ content ∈ Piece.contents (placeholder.pieces .keep text), Enclosable (f content).toList := by
    rw [hcontents]
    decide +kernel
  have hfg : ∀ content ∈ Piece.contents (placeholder.pieces .keep text),
      ∀ c ∈ ([f, g].scanl (fun c f => f c) content).tail, Enclosable c.toList := by
    rw [hcontents]
    decide +kernel
  obtain ⟨hfirst, hall, -⟩ := edits_keep_tokens
  exact ⟨hcontents, hf, hfg, hcontents ▸ (hfirst f text hf).1, hall [f, g] text hfg⟩

end SqlTemplate
