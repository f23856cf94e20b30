import SqlTemplate.Proofs.Computation
import SqlTemplate.Proofs.Token.Walk

/-! # One list of tokens for every pass

A text is searched for tokens, split, scanned and edited at different times. All of these passes meet the same tokens in the same order.
They differ only in what becomes of the backslashes.
-/

namespace SqlTemplate

open SqlTemplate.Computation

namespace Text

/-- No occurrence of the pattern begins before the one that a text is broken at. -/
theorem not_prefix_of_breakOn {pattern cs before rest part : List Char} (h : breakOn pattern cs = some (before, rest))
    (hpart : part <:+ before) (hne : part ≠ []) : ¬ pattern <+: part ++ (pattern ++ rest) := by
  induction cs generalizing before with
  | nil =>
    obtain ⟨r, -, heq⟩ := Option.map_eq_some_iff.1 h
    cases heq
    exact absurd (List.suffix_nil.1 hpart) hne
  | cons c cs ih =>
    have hcs := eq_append_of_breakOn h
    rw [breakOn] at h
    split at h
    · cases h
      exact absurd (List.suffix_nil.1 hpart) hne
    · rename_i hnone
      obtain ⟨⟨b, r⟩, hb, heq⟩ := Option.map_eq_some_iff.1 h
      cases heq
      rcases List.suffix_cons_iff.1 hpart with rfl | hpart
      · rwa [← List.append_assoc, ← hcs, ← after?_eq_none_iff]
      · exact ih hb hpart

end Text

namespace Delimiters

/-! ## Escapes inside tokens -/

/-- A text without the backslashes before the closing delimiters in it. -/
def dropEscapes (closing : List Char) : List Char → List Char
  | [] => []
  | c :: cs =>
    match _h : Text.after? ('\\' :: closing) (c :: cs) with
    | some rest => closing ++ dropEscapes closing rest
    | none => c :: dropEscapes closing cs
termination_by cs => cs.length
decreasing_by
  · have hlength := congrArg List.length (Text.eq_append_of_after? _h)
    simp only [List.length_append, List.length_cons] at hlength ⊢
    omega
  · simp

variable {closing cs : List Char}

theorem dropEscapes_cons {c : Char} (h : c = '\\' → ¬ closing <+: cs) :
    dropEscapes closing (c :: cs) = c :: dropEscapes closing cs := by
  have hnone : Text.after? ('\\' :: closing) (c :: cs) = none := by
    rw [Text.after?_eq_none_iff, List.cons_prefix_cons]
    exact fun hbegins => h hbegins.1.symm hbegins.2
  rw [dropEscapes]
  split
  · rename_i hsome
    rw [hnone] at hsome
    cases hsome
  · rfl

theorem dropEscapes_escape (closing cs : List Char) :
    dropEscapes closing ('\\' :: (closing ++ cs)) = closing ++ dropEscapes closing cs := by
  have hsome : Text.after? ('\\' :: closing) ('\\' :: (closing ++ cs)) = some cs := Text.after?_append ('\\' :: closing) cs
  rw [dropEscapes]
  split
  · rename_i rest hrest
    rw [hsome] at hrest
    cases hrest
    rfl
  · rename_i hnone
    rw [hsome] at hnone
    cases hnone

/-- Up to the delimiter that ends the token, nothing is escaped. -/
theorem dropEscapes_plain {segment rest : List Char}
    (h : ∀ part, part <:+ segment → part ≠ [] → ¬ closing <+: part ++ (closing ++ rest)) :
    dropEscapes closing segment = segment := by
  induction segment with
  | nil => rw [dropEscapes]
  | cons c segment ih =>
    rw [dropEscapes_cons, ih fun part hpart => h part (hpart.trans (List.suffix_cons _ _))]
    rintro - hbegins
    cases segment with
    | nil =>
      rw [List.prefix_nil] at hbegins
      exact h [c] List.suffix_rfl (by simp) (by simp [hbegins])
    | cons d segment => exact h _ (List.suffix_cons _ _) (by simp) (hbegins.trans (List.prefix_append _ _))

/-- The first escaped delimiter loses its backslash, and all before it stays. -/
theorem dropEscapes_part {part rest : List Char}
    (h : ∀ p, p <:+ part ++ ['\\'] → p ≠ [] → ¬ closing <+: p ++ (closing ++ rest)) (cs : List Char) :
    dropEscapes closing (part ++ '\\' :: (closing ++ cs)) = part ++ (closing ++ dropEscapes closing cs) := by
  induction part with
  | nil => exact dropEscapes_escape closing cs
  | cons c part ih =>
    have hpart : part ++ ['\\'] <:+ c :: part ++ ['\\'] := List.suffix_cons _ _
    rw [List.cons_append, dropEscapes_cons, ih fun p hp => h p (hp.trans hpart), List.cons_append]
    rintro - hbegins
    -- The delimiter would be found within its length, whatever comes after it.
    refine h _ hpart (by simp) ?_
    have hshort : closing <+: part ++ ['\\'] ++ closing := by
      refine List.prefix_of_prefix_length_le hbegins ⟨cs, by simp⟩ ?_
      simp only [List.length_append, List.length_singleton]
      omega
    exact hshort.trans ⟨rest, by simp⟩

theorem dropEscapes_token {rest : List Char} {parts : List (List Char)} (h : takeToken? closing cs = some (parts, rest)) :
    dropEscapes closing (('\\' :: closing).intercalate parts) = closing.intercalate parts := by
  induction cs using takeToken?.induct closing generalizing parts with
  | case1 cs hbreak =>
    rw [takeToken?_eq, hbreak] at h
    cases h
  | case2 cs segment after hbreak hplain =>
    rw [takeToken?_eq, hbreak] at h
    simp only [hplain, Option.some.injEq, Prod.mk.injEq] at h
    obtain ⟨rfl, rfl⟩ := h
    rw [List.intercalate_singleton, List.intercalate_singleton]
    exact dropEscapes_plain fun part => Text.not_prefix_of_breakOn hbreak
  | case3 cs segment after hbreak part hescaped ih =>
    rw [takeToken?_eq, hbreak] at h
    simp only [hescaped] at h
    obtain ⟨⟨parts', rest'⟩, htake, heq⟩ := Option.map_eq_some_iff.1 h
    cases heq
    obtain rfl := eq_concat_of_unescape? hescaped
    have hne := (takeToken?_source htake).1
    have hpart := dropEscapes_part (fun _ => Text.not_prefix_of_breakOn hbreak) (('\\' :: closing).intercalate parts')
    rw [List.intercalate_cons_of_ne_nil hne, List.intercalate_cons_of_ne_nil hne, List.append_assoc, List.append_assoc,
      List.cons_append, hpart, ih htake]

/-- The content that is meant by a content in which the escapes were kept. -/
def unescaped (d : Delimiters) (raw : String) : String := .ofList (dropEscapes d.closing raw.toList)

/-! ## What a walk finds -/

variable {opening : List Char}

/-- A text has characters, and a token has the content that is left of its source without the escapes. -/
def Regular (closing : List Char) : Lexeme → Prop
  | .text cs => cs ≠ []
  | .escape _ => True
  | .token parts => dropEscapes closing (('\\' :: closing).intercalate parts) = closing.intercalate parts

theorem regular_textRun (cs : List Char) : ∀ l ∈ textRun cs, Regular closing l := by
  unfold textRun
  split
  · simp
  · rename_i hne
    simpa [Regular] using hne

theorem regular_turn (closing : List Char) (h : opening ≠ []) (cs : List Char) :
    ∀ l ∈ (turn opening closing cs).1, Regular closing l := by
  unfold turn
  split
  · exact regular_textRun cs
  · split
    · exact List.forall_mem_singleton.2 trivial
    · split
      · rename_i htoken
        exact List.forall_mem_append.2 ⟨regular_textRun _, List.forall_mem_singleton.2 (dropEscapes_token htoken)⟩
      · refine List.forall_mem_append.2 ⟨regular_textRun _, List.forall_mem_singleton.2 ?_⟩
        exact List.append_ne_nil_of_left_ne_nil h _

theorem Walk.regular {found : List Lexeme} {n : Nat} (hw : Walk opening closing cs found n) (h : opening ≠ []) :
    ∀ l ∈ found, Regular closing l := by
  induction hw with
  | @last cs found hturn =>
    have hfound := regular_turn closing h cs
    rwa [hturn] at hfound
  | @next cs rest found more n hturn _ ih =>
    have hfound := regular_turn closing h cs
    rw [hturn] at hfound
    exact List.forall_mem_append.2 ⟨hfound, ih⟩

end Delimiters

/-! ## Pieces in order -/

namespace Piece

def isToken : Piece → Bool
  | .text _ => false
  | .token _ => true

def handle {m : Type → Type} [Monad m] (f : String → m String) : Piece → m String
  | .text s => pure s
  | .token content => f content

/-- The text that pieces make up, their tokens being handled in order. -/
def assemble {m : Type → Type} [Monad m] (f : String → m String) (pieces : List Piece) : m String := do
  let parts ← pieces.mapM (handle f)
  pure (String.join parts)

/-- The first token that is rejected is rejected with the error. -/
def Rejects {ε : Type} (f : String → Except ε String) (pieces : List Piece) (e : ε) : Prop :=
  ∃ before content after, pieces = before ++ .token content :: after ∧ (∀ c ∈ contents before, ∃ s, f c = .ok s) ∧
    f content = .error e

/-- A handler that notes what it is called with. -/
def note (f : String → String) (content : String) : StateM (List String) String := fun seen => (f content, seen ++ [content])

section

variable {m : Type → Type} [Monad m] [LawfulMonad m]

theorem assemble_cons (f : String → m String) (piece : Piece) (pieces : List Piece) :
    assemble f (piece :: pieces) = (do
      let s ← handle f piece
      let rest ← assemble f pieces
      pure (s ++ rest)) := by
  simp [assemble, List.mapM_cons, String.join_cons]

/-- Neighbouring texts may be joined before or after the tokens are handled. -/
theorem assemble_mergeTexts (f : String → m String) (pieces : List Piece) :
    assemble f (Delimiters.mergeTexts pieces) = assemble f pieces := by
  induction pieces with
  | nil => rfl
  | cons piece pieces ih =>
    cases piece with
    | token content => rw [Delimiters.mergeTexts, assemble_cons, assemble_cons, ih]
    | text s =>
      rw [assemble_cons, ← ih, Delimiters.mergeTexts]
      split
      · rename_i t more heq
        rw [heq, assemble_cons, assemble_cons]
        simp only [handle, pure_bind, bind_assoc, String.append_assoc]
      · rw [assemble_cons]

end

theorem assemble_note (f : String → String) (pieces : List Piece) (seen : List String) :
    assemble (note f) pieces seen = (String.join (pieces.map (Delimiters.edited f)), seen ++ contents pieces) := by
  induction pieces generalizing seen with
  | nil => exact congrArg _ (List.append_nil seen).symm
  | cons piece pieces ih =>
    rw [assemble_cons, state_bind, state_bind, ih, List.map_cons, String.join_cons]
    cases piece with
    | text s => rfl
    | token content =>
      rw [contents_token, List.append_cons]
      rfl

theorem rejects_cons {ε : Type} {f : String → Except ε String} {piece : Piece} {pieces : List Piece} {e : ε} :
    Rejects f (piece :: pieces) e ↔ handle f piece = .error e ∨ ∃ s, handle f piece = .ok s ∧ Rejects f pieces e := by
  constructor
  · rintro ⟨before, content, after, heq, hbefore, hcontent⟩
    cases before with
    | nil =>
      cases heq
      exact .inl hcontent
    | cons first before =>
      cases heq
      cases piece with
      | text s => exact .inr ⟨s, rfl, before, content, after, rfl, hbefore, hcontent⟩
      | token c =>
        rw [contents_token, List.forall_mem_cons] at hbefore
        exact .inr ⟨_, hbefore.1.choose_spec, before, content, after, rfl, hbefore.2, hcontent⟩
  · rintro (hpiece | ⟨s, hpiece, before, content, after, rfl, hbefore, hcontent⟩)
    · cases piece with
      | text s => cases hpiece
      | token content => exact ⟨[], content, pieces, rfl, by simp [contents], hpiece⟩
    · refine ⟨piece :: before, content, after, rfl, ?_, hcontent⟩
      cases piece with
      | text t => exact hbefore
      | token c =>
        rw [contents_token, List.forall_mem_cons]
        exact ⟨⟨s, hpiece⟩, hbefore⟩

theorem assemble_error_iff {ε : Type} {f : String → Except ε String} {pieces : List Piece} {e : ε} :
    assemble f pieces = .error e ↔ Rejects f pieces e := by
  induction pieces with
  | nil =>
    refine iff_of_false (fun h => by cases h) ?_
    rintro ⟨before, content, after, heq, -⟩
    simp at heq
  | cons piece pieces ih =>
    rw [assemble_cons, except_bind_error, rejects_cons, ← ih]
    simp [except_bind_error, pure, Except.pure]

end Piece

theorem contents_mergeTexts (pieces : List Piece) : Piece.contents (Delimiters.mergeTexts pieces) = Piece.contents pieces := by
  have hmerged := congrFun (Piece.assemble_mergeTexts (Piece.note id) pieces) []
  rw [Piece.assemble_note, Piece.assemble_note, Prod.mk.injEq] at hmerged
  exact hmerged.2

theorem length_contents (pieces : List Piece) : (Piece.contents pieces).length = pieces.countP Piece.isToken := by
  rw [Piece.contents, List.length_filterMap_eq_countP]
  congr 1
  funext piece
  cases piece <;> rfl

theorem contents_split (d : Delimiters) (text : String) : Piece.contents (d.split text) = d.tokens text := by
  rw [Delimiters.split, contents_mergeTexts, Delimiters.tokens_eq_contents]

namespace Delimiters

variable (d : Delimiters)

theorem replace_eq {m : Type → Type} [Monad m] (e : Escapes) (f : String → m String) (text : String) :
    d.replace e f text = Piece.assemble f (d.pieces e text) := rfl

theorem scan_eq {m : Type → Type} [Monad m] (f : String → m String) (text : String) :
    d.scan f text = (do
      let parts ← (d.pieces .drop text).mapM (Piece.handle f)
      pure (String.join parts)) := rfl

/-! ## The pieces of a text -/

theorem mergeTexts_chain (pieces : List Piece) :
    (mergeTexts pieces).IsChain fun p q => p.isToken = true ∨ q.isToken = true := by
  induction pieces with
  | nil => exact .nil
  | cons piece pieces ih =>
    cases piece with
    | token content => exact List.isChain_cons.2 ⟨fun _ _ => .inl rfl, ih⟩
    | text s =>
      rw [mergeTexts]
      split
      · rename_i t more heq
        rw [heq, List.isChain_cons] at ih
        exact List.isChain_cons.2 ih
      · rename_i hne
        refine List.isChain_cons.2 ⟨fun p hp => ?_, ih⟩
        cases p with
        | text t =>
          obtain ⟨more, hmore⟩ := List.head?_eq_some_iff.1 hp
          exact absurd hmore (hne t more)
        | token content => exact .inr rfl

theorem text_mem_mergeTexts {pieces : List Piece} (h : .text "" ∉ pieces) : .text "" ∉ mergeTexts pieces := by
  induction pieces with
  | nil => exact h
  | cons piece pieces ih =>
    rw [List.mem_cons, not_or] at h
    cases piece with
    | token content => simpa [mergeTexts] using ih h.2
    | text s =>
      have hs : s ≠ "" := fun hs => h.1 (by rw [hs])
      rw [mergeTexts]
      split
      · rename_i t more heq
        have hrest := ih h.2
        rw [heq, List.mem_cons, not_or] at hrest
        simp [hrest.2, hs, eq_comm (a := "")]
      · simp [ih h.2, hs, eq_comm (a := "")]

variable {d}

theorem text_mem_pieces (h : d.opening ≠ []) (e : Escapes) (text : String) : .text "" ∉ d.pieces e text := by
  obtain ⟨n, -, hwalk⟩ := d.walk_lexemes text.toList
  have hregular := hwalk.regular h
  rw [pieces, List.mem_map]
  rintro ⟨l, hl, hpiece⟩
  cases l with
  | text cs =>
    have hne : cs ≠ [] := hregular _ hl
    simp [piece, hne] at hpiece
  | escape before => simp [piece, h] at hpiece
  | token parts => simp [piece] at hpiece

/-- The contents that a pass which keeps the escapes meets. -/
theorem contents_drop (h : d.opening ≠ []) (text : String) :
    Piece.contents (d.pieces .drop text) =
      (Piece.contents (d.pieces .keep text)).map d.unescaped := by
  obtain ⟨n, -, hwalk⟩ := d.walk_lexemes text.toList
  have hregular := hwalk.regular h
  unfold pieces
  generalize d.lexemes text.toList = lexemes at hregular
  induction lexemes with
  | nil => rfl
  | cons l lexemes ih =>
    rw [List.forall_mem_cons] at hregular
    have hrest := ih hregular.2
    rw [List.map_cons, List.map_cons]
    cases l with
    | text cs => exact hrest
    | escape before => exact hrest
    | token parts =>
      have hparts : dropEscapes d.closing (('\\' :: d.closing).intercalate parts) = d.closing.intercalate parts := hregular.1
      rw [piece, piece, Piece.contents_token, Piece.contents_token, List.map_cons, hrest]
      simp [unescaped, Escapes.mark, hparts]

variable (d)

theorem hasTokens_iff (text : String) : d.hasTokens text = true ↔ d.tokens text ≠ [] := by
  rw [hasTokens, tokens, pieces]
  induction d.lexemes text.toList with
  | nil => simp
  | cons l lexemes ih =>
    rw [List.any_cons, Bool.or_eq_true, ih]
    cases l <;> simp [piece]

/-- A text without the opening delimiter is one piece, if it is not empty. -/
theorem replace_plain {m : Type → Type} [Monad m] [LawfulMonad m] {text : String} (h : ¬ d.opening <:+: text.toList) (e : Escapes)
    (f : String → m String) : d.replace e f text = pure text := by
  have hlexemes : d.lexemes text.toList = textRun text.toList := by
    rw [lexemes]
    split
    · rfl
    · rename_i hbreak
      rw [Text.breakOn_eq_none h] at hbreak
      cases hbreak
  rw [replace_eq, pieces, hlexemes, textRun]
  split
  · rename_i hempty
    rw [← String.ofList_toList (s := text), List.isEmpty_iff.1 hempty]
    simp [Piece.assemble]
  · simp [Piece.assemble, piece, Piece.handle]

/-- The list of tokens, the pieces and the check for tokens agree, and so do a scan and an edit, which hand the same tokens to their
handlers in the same order, but for the backslashes before closing delimiters. A scan gives what its handler makes of the pieces,
which are texts and tokens in turn, and stops at the first token that the handler rejects. -/
theorem passes_agree {d : Delimiters} (hopening : d.opening ≠ []) (text : String) :
    d.tokens text = Piece.contents (d.split text) ∧
      (d.hasTokens text = true ↔ Piece.contents (d.split text) ≠ []) ∧
      (∀ (m : Type → Type) [Monad m] [LawfulMonad m] (f : String → m String),
        d.scan f text = Piece.assemble f (d.split text) ∧
          (¬ d.opening <:+: text.toList → d.scan f text = pure text ∧ d.edit f text = pure text)) ∧
      (∀ (ε : Type) (f : String → Except ε String) (e : ε), d.scan f text = .error e ↔ Piece.Rejects f (d.split text) e) ∧
      (d.split text).IsChain (fun p q => p.isToken = true ∨ q.isToken = true) ∧ .text "" ∉ d.split text ∧
      ∃ raws, d.tokens text = raws.map d.unescaped ∧ ∀ (f : String → String) (seen : List String),
        (d.scan (Piece.note f) text seen).2 = seen ++ d.tokens text ∧ (d.edit (Piece.note f) text seen).2 = seen ++ raws := by
  have hscan (m : Type → Type) [Monad m] [LawfulMonad m] (f : String → m String) :
      d.scan f text = Piece.assemble f (d.split text) := (Piece.assemble_mergeTexts f _).symm
  refine ⟨(contents_split d text).symm, ?_, fun m _ _ f => ⟨hscan m f, fun h => ?_⟩, fun ε f e => ?_, mergeTexts_chain _,
    text_mem_mergeTexts (text_mem_pieces hopening .drop text), Piece.contents (d.pieces .keep text), ?_, fun f seen => ⟨?_, ?_⟩⟩
  · rw [contents_split, hasTokens_iff]
  · exact ⟨d.replace_plain h .drop f, d.replace_plain h .keep f⟩
  · rw [hscan, Piece.assemble_error_iff]
  · rw [← contents_split, split, contents_mergeTexts, contents_drop hopening]
  · rw [hscan, Piece.assemble_note, contents_split]
  · exact congrArg Prod.snd (Piece.assemble_note f (d.pieces .keep text) seen)

/-- The first delimiter is escaped, the content of the first token holds an escaped one, and the last is never closed. -/
theorem passes_agree_escapes :
    let text := "\\#\x7ba\x7d #\x7bb\\\x7dc\x7d#\x7b d \x7d #\x7be"
    placeholder.opening ≠ [] ∧ Piece.contents (placeholder.split text) = ["b\x7dc", " d "] ∧
      placeholder.tokens text = ["b\x7dc", " d "] ∧
      ∃ raws, raws = ["b\\\x7dc", " d "] ∧ placeholder.tokens text = raws.map placeholder.unescaped ∧
        (placeholder.edit (Piece.note fun content => content) text []).2 = raws := by
  intro text
  have hcontents : Piece.contents (placeholder.split text) = ["b\x7dc", " d "] := by decide +kernel
  have hopening : placeholder.opening ≠ [] := by decide
  obtain ⟨htokens, -, -, -, -, -, raws, hraws, hpasses⟩ := passes_agree hopening text
  have hedit := (hpasses (fun content => content) []).2
  have hnoted : (placeholder.edit (Piece.note fun content => content) text []).2 = ["b\\\x7dc", " d "] := by decide +kernel
  exact ⟨hopening, hcontents, htokens.trans hcontents, raws, hedit.symm.trans hnoted, hraws, hedit⟩

end Delimiters

end SqlTemplate
