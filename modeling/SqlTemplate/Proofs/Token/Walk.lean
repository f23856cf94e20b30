import SqlTemplate.Catalog.Include
import SqlTemplate.Proofs.Token.Contents

/-! # Walking through a text

A text is taken apart turn by turn. Every turn keeps each character that it passes over, and if it goes on, less of the text is
left than before. So the walk comes to an end, and an edit that puts every token back where it was changes nothing.
-/

namespace SqlTemplate

/-- The run as it stands in a text. -/
def Lexeme.source (opening closing : List Char) : Lexeme → List Char
  | .text cs => cs
  | .escape before => before ++ '\\' :: opening
  | .token parts => opening ++ ('\\' :: closing).intercalate parts ++ closing

namespace Delimiters

variable {opening closing cs rest : List Char}

/-! ## One turn -/

/-- What one turn finds, and the rest that the next one begins with. There is no rest where the walk ends. -/
def turn (opening closing cs : List Char) : List Lexeme × Option (List Char) :=
  match Text.breakOn opening cs with
  | none => (textRun cs, none)
  | some (before, after) =>
    match unescape? before with
    | some text => ([.escape text], some after)
    | none =>
      match takeToken? closing after with
      | some (parts, rest) => (textRun before ++ [.token parts], some rest)
      | none => (textRun before ++ [.text (opening ++ after)], none)

theorem source_textRun (cs : List Char) : (textRun cs).flatMap (Lexeme.source opening closing) = cs := by
  unfold textRun
  split
  · rename_i hnil
    rw [List.isEmpty_iff.1 hnil]
    rfl
  · exact List.flatMap_singleton ..

/-- A turn keeps every character. -/
theorem source_turn (opening closing cs : List Char) :
    (turn opening closing cs).1.flatMap (Lexeme.source opening closing) ++ (turn opening closing cs).2.getD [] = cs := by
  unfold turn
  split
  · simp [source_textRun]
  · rename_i before after hbreak
    have hcs := Text.eq_append_of_breakOn hbreak
    split
    · rename_i text hescaped
      rw [hcs, eq_concat_of_unescape? hescaped]
      simp [Lexeme.source]
    · split
      · rename_i parts rest htoken
        rw [hcs, (takeToken?_source htoken).2]
        simp [source_textRun, Lexeme.source]
      · rw [hcs]
        simp [source_textRun, Lexeme.source]

/-- A turn that is not the last one leaves less than it began with. -/
theorem length_turn (h : opening ≠ [] ∨ closing ≠ []) (hrest : (turn opening closing cs).2 = some rest) :
    rest.length < cs.length := by
  unfold turn at hrest
  split at hrest
  · cases hrest
  · rename_i before after hbreak
    have hbroken := Text.length_of_breakOn hbreak
    split at hrest
    · rename_i text hescaped
      cases hrest
      have hescape := length_pos_of_unescape? hescaped
      omega
    · split at hrest
      · rename_i parts rest' htoken
        cases hrest
        have htaken := length_of_takeToken? htoken
        have hpos := h.imp List.length_pos_iff.2 List.length_pos_iff.2
        omega
      · cases hrest

theorem lexemes_turn (d : Delimiters) (cs : List Char) :
    d.lexemes cs = (turn d.opening d.closing cs).1 ++ (turn d.opening d.closing cs).2.elim [] d.lexemes := by
  unfold turn
  rw [lexemes]
  split
  · rename_i hbreak
    simp [hbreak]
  · rename_i before after hbreak
    simp only [hbreak]
    split
    · rename_i text hescaped
      simp [hescaped]
    · rename_i hplain
      simp only [hplain]
      split <;> simp_all

/-! ## The whole walk -/

/-- The walk over a text, with what it finds and the number of its turns. -/
inductive Walk (opening closing : List Char) : List Char → List Lexeme → Nat → Prop
  | last {cs : List Char} {found : List Lexeme} (h : turn opening closing cs = (found, none)) : Walk opening closing cs found 1
  | next {cs rest : List Char} {found more : List Lexeme} {n : Nat} (h : turn opening closing cs = (found, some rest))
    (hmore : Walk opening closing rest more n) : Walk opening closing cs (found ++ more) (n + 1)

theorem Walk.source {found : List Lexeme} {n : Nat} (h : Walk opening closing cs found n) :
    found.flatMap (Lexeme.source opening closing) = cs := by
  induction h with
  | @last cs found h =>
    have hturn := source_turn opening closing cs
    rw [h] at hturn
    simpa using hturn
  | @next cs rest found more n h _ ih =>
    have hturn := source_turn opening closing cs
    rw [h] at hturn
    rwa [List.flatMap_append, ih]

/-- There is at most one walk over a text. -/
theorem Walk.eq_lexemes {d : Delimiters} {found : List Lexeme} {n : Nat} (h : Walk d.opening d.closing cs found n) :
    found = d.lexemes cs := by
  induction h with
  | last h => simp [lexemes_turn, h]
  | next h _ ih =>
    rw [lexemes_turn, h, ih]
    rfl

/-- The walk ends, with at most one turn for each character and the last one. -/
theorem walk_lexemes (d : Delimiters) (cs : List Char) :
    ∃ n ≤ cs.length + 1, Walk d.opening d.closing cs (d.lexemes cs) n := by
  induction hlen : cs.length using Nat.strongRecOn generalizing cs with
  | _ len ih =>
    rw [lexemes_turn]
    obtain ⟨found, rest?, hturn⟩ : ∃ found rest?, turn d.opening d.closing cs = (found, rest?) := ⟨_, _, rfl⟩
    cases rest? with
    | none => exact ⟨1, by omega, by simpa [hturn] using Walk.last hturn⟩
    | some rest =>
      have hshort := length_turn d.usable (congrArg Prod.snd hturn)
      obtain ⟨n, hn, hwalk⟩ := ih rest.length (by omega) rest rfl
      exact ⟨n + 1, by omega, by simpa [hturn] using Walk.next hturn hwalk⟩

/-- Between two empty delimiters there would be a token everywhere, over and over. -/
theorem not_walk_empty (cs : List Char) (found : List Lexeme) (n : Nat) : ¬ Walk [] [] cs found n := by
  have hturn (cs : List Char) : turn [] [] cs = ([.token [[]]], some cs) := by
    have hbreak : Text.breakOn [] cs = some ([], cs) := by cases cs <;> rfl
    simp [turn, takeToken?_eq, hbreak, unescape?, textRun]
  intro h
  induction h with
  | last h => simp [hturn] at h
  | next _ _ ih => exact ih

/-! ## Putting tokens back -/

theorem source_lexemes (d : Delimiters) (cs : List Char) :
    (d.lexemes cs).flatMap (Lexeme.source d.opening d.closing) = cs := by
  obtain ⟨n, -, h⟩ := d.walk_lexemes cs
  exact h.source

theorem join_enclosed (d : Delimiters) (text : String) :
    String.join ((d.pieces .keep text).map (edited d.enclose)) = text := by
  have hpiece (l : Lexeme) : (edited d.enclose (d.piece .keep l)).toList = l.source d.opening d.closing := by
    cases l <;> simp [piece, edited, enclose, Lexeme.source, Escapes.mark]
  apply String.toList_injective
  rw [String.toList_join, pieces, List.map_map, List.flatMap_map]
  simp only [Function.comp_apply, hpiece, source_lexemes]

/-- Only what the lookup finds is replaced. -/
theorem substitute_unknown (d : Delimiters) {lookup : String → Option String} {text : String}
    (h : ∀ content ∈ Piece.contents (d.pieces .keep text), lookup (Text.trimString content) = none) :
    d.substitute lookup text = text := by
  rw [substitute, edit_pure]
  conv_rhs => rw [← d.join_enclosed text]
  congr 1
  refine List.map_congr_left fun p hp => ?_
  cases p with
  | text s => rfl
  | token content => rw [edited, edited, h content (Piece.mem_contents.2 hp), Option.getD_none]

/-- The walk over a text ends, it is the one that edits go by, and putting back what it found gives the text. So an edit that puts
every token back changes nothing, nor does a substitution that knows none of them, like one without any variables. -/
theorem walk_lossless (d : Delimiters) (text : String) :
    (∃ n ≤ text.toList.length + 1, Walk d.opening d.closing text.toList (d.lexemes text.toList) n) ∧
      (∀ found n, Walk d.opening d.closing text.toList found n → found = d.lexemes text.toList) ∧
      (∀ (m : Type → Type) [Monad m] [LawfulMonad m],
        d.edit (m := m) (fun content => pure (d.enclose content)) text = pure text) ∧
      (∀ lookup : String → Option String,
        (∀ content ∈ Piece.contents (d.pieces .keep text), lookup (Text.trimString content) = none) →
          d.substitute lookup text = text) ∧
      ∀ known : Dict String, (if known.isEmpty then text else Include.fill known text) = Include.fill known text := by
  refine ⟨d.walk_lexemes _, fun found n h => h.eq_lexemes, fun m _ _ => ?_, fun lookup h => d.substitute_unknown h, fun known => ?_⟩
  · rw [edit, replace_pure, join_enclosed]
  · split_ifs with hempty
    · rw [List.isEmpty_iff.1 hempty]
      exact (substitution.substitute_unknown fun _ _ => rfl).symm
    · rfl

/-- An escaped opening delimiter, an escaped closing one in a token, and a token that is never closed. -/
theorem walk_lossless_escapes :
    let text := "\\#\x7bx\x7d #\x7b a\\\x7db \x7d #\x7bc"
    let lookup : String → Option String := fun name => if name = "x" then some "1" else none
    (∀ content ∈ Piece.contents (placeholder.pieces .keep text), lookup (Text.trimString content) = none) ∧
      placeholder.edit (m := Id) (fun content => pure (placeholder.enclose content)) text = pure text ∧
      placeholder.substitute lookup text = text := by
  intro text lookup
  have hunknown : ∀ content ∈ Piece.contents (placeholder.pieces .keep text), lookup (Text.trimString content) = none := by
    decide +kernel
  have hlossless := walk_lossless placeholder text
  exact ⟨hunknown, hlossless.2.2.1 Id, hlossless.2.2.2.1 lookup hunknown⟩

end Delimiters

end SqlTemplate
