import SqlTemplate.Proofs.Mapping.Markers
import SqlTemplate.Proofs.Rendering.Success
import SqlTemplate.Proofs.Token.Walk

/-! # Substituted text

A text with tokens is split once and put together again for each parameter, which gives what one scan over the text gives. A text
without a token is left as it stands, so that an escaped token keeps the backslash that a scan drops.
-/

namespace SqlTemplate

open SqlTemplate.Computation Text

/-- The text that stands for a token, if its expression can be read and has a value. -/
def tokenText? (b : Bindings) (content : String) : Option String := do
  let e ← (Expr.parse (trimString content)).toOption
  let v ← (e.eval b).toOption
  some (if v.isNull then "" else v.text)

theorem tokenText?_eq_some {b : Bindings} {content s : String} :
    tokenText? b content = some s ↔
      ∃ e v, Expr.parse (trimString content) = .ok e ∧ e.eval b = .ok v ∧ (if v.isNull then "" else v.text) = s := by
  simp [tokenText?, Option.bind_eq_some_iff, toOption_eq_some]

def Lexeme.isEscape : Lexeme → Bool
  | .escape _ => true
  | _ => false

namespace Delimiters

variable (d : Delimiters)

/-! ## Scanning -/

theorem mapM_handle {f : String → Option String} {pieces : List Piece} (h : ∀ content ∈ Piece.contents pieces, (f content).isSome) :
    pieces.mapM (Piece.handle f) = some (pieces.map (edited fun content => (f content).getD "")) := by
  induction pieces with
  | nil => rfl
  | cons piece pieces ih =>
    rw [List.mapM_cons]
    cases piece with
    | text s =>
      rw [ih h]
      rfl
    | token content =>
      rw [Piece.contents_token, List.forall_mem_cons] at h
      obtain ⟨s, hs⟩ := Option.isSome_iff_exists.1 h.1
      rw [ih h.2, Piece.handle, hs]
      simp [edited, hs]

theorem scan_some {f : String → Option String} {text : String} (h : ∀ content ∈ d.tokens text, (f content).isSome) :
    d.scan f text = some (String.join ((d.pieces .drop text).map (edited fun content => (f content).getD ""))) := by
  rw [scan_eq, mapM_handle h]
  rfl

/-- Neighbouring texts may be joined before or after the tokens are replaced. -/
theorem join_edited_mergeTexts (f : String → String) (pieces : List Piece) :
    String.join ((mergeTexts pieces).map (edited f)) = String.join (pieces.map (edited f)) := by
  have hmerged := congrFun (Piece.assemble_mergeTexts (Piece.note f) pieces) []
  rw [Piece.assemble_note, Piece.assemble_note, Prod.mk.injEq] at hmerged
  exact hmerged.1

/-! ## Text without tokens -/

theorem hasTokens_eq_false {text : String} : d.hasTokens text = false ↔ ∀ parts, .token parts ∉ d.lexemes text.toList := by
  rw [hasTokens, List.any_eq_false]
  constructor
  · intro h parts hmem
    exact h _ hmem rfl
  · rintro h (_ | _ | parts) hmem
    · exact Bool.false_ne_true
    · exact Bool.false_ne_true
    · exact absurd hmem (h parts)

/-- Every escape loses its backslash. -/
theorem length_edited (f : String → String) {lexemes : List Lexeme} (h : ∀ parts, .token parts ∉ lexemes) :
    (lexemes.flatMap (Lexeme.source d.opening d.closing)).length =
      (String.join ((lexemes.map (d.piece .drop)).map (edited f))).length + lexemes.countP Lexeme.isEscape := by
  induction lexemes with
  | nil => rfl
  | cons l lexemes ih =>
    have hrest := ih fun parts hmem => h parts (List.mem_cons_of_mem _ hmem)
    rw [List.flatMap_cons, List.length_append, hrest, List.map_cons, List.map_cons, String.join_cons, List.countP_cons]
    cases l with
    | text cs => simp [Lexeme.source, piece, edited, Lexeme.isEscape, Nat.add_assoc]
    | escape before =>
      simp [Lexeme.source, piece, edited, Lexeme.isEscape, Escapes.mark]
      omega
    | token parts => exact absurd List.mem_cons_self (h parts)

/-- Without tokens and escapes there is nothing to replace. -/
theorem eq_edited_iff (f : String → String) {text : String} (h : d.hasTokens text = false) :
    text = String.join ((d.pieces .drop text).map (edited f)) ↔ ∀ before, .escape before ∉ d.lexemes text.toList := by
  rw [hasTokens_eq_false] at h
  have hsource := d.source_lexemes text.toList
  constructor
  · intro heq before hmem
    have hlength := d.length_edited f h
    have hescape := List.countP_pos_iff.2 ⟨_, hmem, show Lexeme.isEscape (.escape before) = true from rfl⟩
    -- A backslash that is lost makes the text shorter, so that one escape is enough.
    rw [hsource, ← pieces, ← heq, String.length_toList] at hlength
    omega
  · intro hescape
    apply String.toList_injective
    rw [String.toList_join, pieces, List.map_map, List.flatMap_map]
    conv_lhs => rw [← hsource]
    refine List.flatMap_congr fun l hmem => ?_
    cases l with
    | text cs => simp [Lexeme.source, piece, edited]
    | escape before => exact absurd hmem (hescape before)
    | token parts => exact absurd hmem (h parts)

end Delimiters

/-! ## Segments -/

/-- The segments can be read, and give the text that the pieces give with their tokens replaced. -/
theorem readSegments_text {b : Bindings} {pieces : List Piece} (h : ∀ content ∈ Piece.contents pieces, (tokenText? b content).isSome) :
    ∃ segments, Template.readSegments pieces = .ok segments ∧
      segmentsText b segments = .ok (String.join (pieces.map (Delimiters.edited fun content => (tokenText? b content).getD ""))) := by
  induction pieces with
  | nil => exact ⟨[], rfl, rfl⟩
  | cons piece pieces ih =>
    cases piece with
    | text s =>
      obtain ⟨segments, hread, htext⟩ := ih h
      refine ⟨.text s :: segments, ?_, ?_⟩
      · rw [Template.readSegments, hread]
        rfl
      · rw [segmentsText, htext, List.map_cons, String.join_cons]
        rfl
    | token content =>
      rw [Piece.contents_token, List.forall_mem_cons] at h
      obtain ⟨segments, hread, htext⟩ := ih h.2
      obtain ⟨s, hs⟩ := Option.isSome_iff_exists.1 h.1
      obtain ⟨e, v, hparse, heval, hv⟩ := tokenText?_eq_some.1 hs
      refine ⟨.expr e :: segments, ?_, ?_⟩
      · rw [Template.readSegments, hparse, hread]
        rfl
      · rw [segmentsText, heval, htext, List.map_cons, String.join_cons, Delimiters.edited, hs, except_ok_bind, except_ok_bind, hv]
        rfl

namespace Template

/-- A text with a token writes what a scan over it gives. A text without one writes itself, and a scan gives the same only if there is
no escaped token in it. A parameter without properties has a name in the expressions of the tokens. -/
theorem ofText_scan (text : String) (c : Context) :
    let d := (run Render.bindScalar c).2
    (∀ name, Dict.get? d.bindings name =
      if name = "value" ∧ Dict.get? c.bindings "value" = none ∧ (c.bindings.parameter.isNull || c.bindings.parameter.isScalar) = true
      then some c.bindings.parameter else Dict.get? c.bindings name) ∧
    ((∀ content ∈ substitution.tokens text, (tokenText? d.bindings content).isSome) →
      ∃ scanned n e, substitution.scan (tokenText? d.bindings) text = some scanned ∧ ofText text = .ok n ∧
        run n.render c = (.ok true, e) ∧ e = (if substitution.hasTokens text then d.append scanned else c.append text) ∧
        (e.fragments = c.fragments ++ [scanned] ↔
          substitution.hasTokens text = true ∨ ∀ before, .escape before ∉ substitution.lexemes text.toList)) := by
  intro d
  refine ⟨bindScalar_get? c, fun h => ?_⟩
  cases htokens : substitution.hasTokens text with
  | true =>
    have hsplit : ∀ content ∈ Piece.contents (substitution.split text), (tokenText? d.bindings content).isSome := by
      rwa [contents_split]
    obtain ⟨segments, hread, htext⟩ := readSegments_text hsplit
    rw [Delimiters.split, Delimiters.join_edited_mergeTexts] at htext
    have hfragments : d.fragments = c.fragments := bindScalar_fragments c
    refine ⟨_, .substituted text segments, _, substitution.scan_some h, ?_, ?_, rfl, ?_⟩
    · rw [ofText, if_pos htokens, hread]
      rfl
    · exact Node.render_substituted_ok.2 ⟨rfl, _, _, Render.segments_ok.2 ⟨rfl, htext⟩, rfl⟩
    · simp [Context.append, hfragments]
  | false =>
    refine ⟨_, .text text, _, substitution.scan_some h, ?_, ?_, rfl, ?_⟩
    · rw [ofText, if_neg (by simp [htokens])]
    · exact Node.render_text_ok.2 ⟨rfl, rfl⟩
    · simpa [Context.append] using substitution.eq_edited_iff _ htokens

/-- Next to a token an escaped one loses its backslash. -/
theorem ofText_scan_beside :
    let c := Context.initial (.int 7) none
    let text := "\\$\x7ba\x7d $\x7b value \x7d $\x7bb"
    (∀ content ∈ substitution.tokens text, (tokenText? (run Render.bindScalar c).2.bindings content).isSome) ∧
      ∃ n e, ofText text = .ok n ∧ run n.render c = (.ok true, e) ∧ e.fragments = ["$\x7ba\x7d 7 $\x7bb"] := by
  intro c text
  have hvalues : ∀ content ∈ substitution.tokens text, (tokenText? (run Render.bindScalar c).2.bindings content).isSome := by
    decide +kernel
  have hscan : substitution.scan (tokenText? (run Render.bindScalar c).2.bindings) text = some "$\x7ba\x7d 7 $\x7bb" := by
    decide +kernel
  obtain ⟨scanned, n, e, hscanned, hn, hrun, -, hiff⟩ := (ofText_scan text c).2 hvalues
  rw [hscan, Option.some.injEq] at hscanned
  exact ⟨hvalues, n, e, hn, hrun, hscanned ▸ hiff.2 (.inl (by decide +kernel))⟩

/-- By itself it keeps the backslash. -/
theorem escaped_alone :
    let c := Context.initial (.map []) none
    let text := "select '\\$\x7bx\x7d'"
    substitution.tokens text = [] ∧
      substitution.scan (tokenText? (run Render.bindScalar c).2.bindings) text = some "select '$\x7bx\x7d'" ∧
      ∃ n e, ofText text = .ok n ∧ run n.render c = (.ok true, e) ∧ e.fragments = ["select '\\$\x7bx\x7d'"] ∧
        e.fragments ≠ c.fragments ++ ["select '$\x7bx\x7d'"] := by
  intro c text
  refine ⟨by decide +kernel, by decide +kernel, .text text, c.append text, ?_, Node.render_text_ok.2 ⟨rfl, rfl⟩, rfl, by decide⟩
  rw [ofText, if_neg (by decide +kernel)]

end Template

end SqlTemplate
