import SqlTemplate.Proofs.Token.Glyph

/-! # The contents of placeholders

Reading and renaming placeholders, unit by unit.
-/

namespace SqlTemplate

/-- Every opening delimiter is escaped or closed. -/
def Closed (cs : List Char) : Prop := ∀ run, .text run ∈ placeholder.lexemes cs → Unopened run

namespace Piece

def content? : Piece → Option String
  | .text _ => none
  | .token content => some content

def contents (pieces : List Piece) : List String := pieces.filterMap content?

theorem contents_token (content : String) (pieces : List Piece) : contents (.token content :: pieces) = content :: contents pieces := rfl

theorem mem_contents {pieces : List Piece} {content : String} : content ∈ contents pieces ↔ .token content ∈ pieces := by
  rw [contents, List.mem_filterMap]
  constructor
  · rintro ⟨_ | _, hmem, heq⟩
    · cases heq
    · cases heq
      exact hmem
  · exact fun h => ⟨_, h, rfl⟩

end Piece

/-- The parts of the content, if the run is a token. -/
def Lexeme.parts? : Lexeme → Option (List (List Char))
  | .token parts => some parts
  | _ => none

theorem contents_pieces (e : Delimiters.Escapes) (s : String) :
    Piece.contents (placeholder.pieces e s) =
      ((placeholder.lexemes s.toList).filterMap Lexeme.parts?).map fun parts => .ofList ((e.mark ++ ['}']).intercalate parts) := by
  rw [Piece.contents, Delimiters.pieces, List.filterMap_map, List.map_filterMap]
  refine List.filterMap_congr fun lexeme _ => ?_
  cases lexeme <;> rfl

namespace Delimiters

theorem tokens_eq_contents (d : Delimiters) (s : String) : d.tokens s = Piece.contents (d.pieces .drop s) := by
  rw [tokens, Piece.contents]
  rfl

/-- What an edit writes for a piece. -/
def edited (f : String → String) : Piece → String
  | .text s => s
  | .token content => f content

theorem replace_pure {m : Type → Type} [Monad m] [LawfulMonad m] (d : Delimiters) (e : Escapes) (f : String → String) (s : String) :
    d.replace (m := m) e (fun content => pure (f content)) s = pure (String.join ((d.pieces e s).map (edited f))) := by
  have hpieces (ps : List Piece) :
      (ps.mapM fun | .text s => (pure s : m String) | .token content => pure (f content)) = pure (ps.map (edited f)) := by
    induction ps with
    | nil => rfl
    | cons p ps ih =>
      rw [List.mapM_cons, ih]
      cases p <;> simp [edited]
  exact (congrArg (· >>= fun parts => pure (String.join parts)) (hpieces _)).trans (pure_bind _ _)

theorem edit_pure (d : Delimiters) (f : String → String) (s : String) :
    d.edit (m := Id) f s = String.join ((d.pieces .keep s).map (edited f)) :=
  d.replace_pure (m := Id) .keep f s

end Delimiters

namespace Glyph

/-! ## Texts whose placeholders are closed -/

theorem Sound.append {gs hs : List Glyph} (hg : Sound gs) (hh : Sound hs)
    (h : ∀ x ∈ gs.getLast?, ∀ y ∈ hs.head?, Follows x y) : Sound (gs ++ hs) := by
  refine ⟨List.isChain_append.2 ⟨hg.chain, hh.chain, h⟩, fun raw hmem => ?_⟩
  rcases List.mem_append.1 hmem with hmem | hmem
  · exact hg.enclosed raw hmem
  · exact hh.enclosed raw hmem

theorem sound_chars {cs : List Char} (h : Unopened cs) : Sound (chars cs) := by
  induction cs with
  | nil => exact .nil
  | cons c cs ih =>
    rw [unopened_cons] at h
    refine sound_cons.2 ⟨fun g hg => ?_, by simp, ih h.2⟩
    cases cs with
    | nil => cases hg
    | cons d cs =>
      cases hg
      unfold Follows
      split <;> simp_all

theorem getLast?_chars {cs : List Char} {g : Glyph} (h : g ∈ (chars cs).getLast?) : ∃ c, g = char c ∧ cs.getLast? = some c := by
  rw [chars, List.getLast?_map] at h
  obtain ⟨c, hc, rfl⟩ := Option.map_eq_some_iff.1 h
  exact ⟨c, rfl, hc⟩

/-- The units of a text with closed placeholders stay apart. -/
theorem sound_read {cs : List Char} (h : Closed cs) : Sound (read cs) := by
  induction cs using opening_induction with
  | plain cs hfree =>
    rw [read_plain hfree]
    exact sound_chars hfree
  | escape before after hfree ih =>
    unfold Closed at h
    rw [lexemes_to_escape hfree] at h
    have hrest := ih fun run hmem => h run (List.mem_cons_of_mem _ hmem)
    rw [read_to_escape hfree]
    refine (sound_chars hfree).append (sound_cons.2 ⟨fun _ _ => ?_, by simp, hrest⟩) fun x hx y hy => ?_
    · unfold Follows
      split <;> simp_all
    · cases hy
      unfold Follows
      split <;> simp_all
  | token before raw rest hfree hlast henclosed ih =>
    unfold Closed at h
    obtain ⟨parts, -, -, hlexemes⟩ := lexemes_to_token hfree hlast henclosed rest
    rw [hlexemes] at h
    have hrest := ih fun run hmem => h run (List.mem_append_right _ (List.mem_cons_of_mem _ hmem))
    rw [read_to_token hfree hlast henclosed]
    refine (sound_chars hfree).append (sound_cons.2 ⟨fun _ _ => ?_, ?_, hrest⟩) fun x hx y hy => ?_
    · unfold Follows
      split <;> simp_all
    · rintro raw' heq
      cases heq
      exact henclosed
    · cases hy
      obtain ⟨c, rfl, hc⟩ := getLast?_chars hx
      unfold Follows
      split <;> simp_all
  | unended before after hfree hlast hend =>
    -- An opening delimiter without an end stays in the text, which closed placeholders exclude.
    have hopen := h ('#' :: '{' :: after) (by simp [lexemes_to_unended hfree hlast hend])
    rw [unopened_cons] at hopen
    simp at hopen

/-! ## Contents -/

/-- The content of a token as it stands. -/
def raw? : Glyph → Option (List Char)
  | .token raw => some raw
  | _ => none

/-- The contents of the tokens as they stand. -/
def raws (gs : List Glyph) : List (List Char) := gs.filterMap raw?

@[simp]
theorem raws_nil : raws [] = [] := rfl

@[simp]
theorem raws_cons_char (c : Char) (gs : List Glyph) : raws (char c :: gs) = raws gs := rfl

@[simp]
theorem raws_cons_escape (gs : List Glyph) : raws (escape :: gs) = raws gs := rfl

@[simp]
theorem raws_cons_token (raw : List Char) (gs : List Glyph) : raws (token raw :: gs) = raw :: raws gs := rfl

@[simp]
theorem raws_append (gs hs : List Glyph) : raws (gs ++ hs) = raws gs ++ raws hs := List.filterMap_append

@[simp]
theorem raws_chars (cs : List Char) : raws (chars cs) = [] := by
  induction cs with
  | nil => rfl
  | cons c cs ih => exact ih

theorem mem_raws {gs : List Glyph} {raw : List Char} : raw ∈ raws gs ↔ token raw ∈ gs := by
  rw [raws, List.mem_filterMap]
  constructor
  · rintro ⟨g, hg, hraw⟩
    cases g <;> simp_all [raw?]
  · exact fun h => ⟨_, h, rfl⟩

/-- The content that is meant. -/
def meant (raw : List Char) : String := .ofList (unescape raw)

theorem unescape_of_mem {cs : List Char} {parts : List (List Char)} (h : .token parts ∈ placeholder.lexemes cs) :
    unescape (Delimiters.rawOf parts) = Delimiters.plainOf parts := by
  have hrun {run : List Char} : Lexeme.token parts ∉ Delimiters.textRun run := by
    unfold Delimiters.textRun
    split <;> simp
  induction cs using opening_induction with
  | plain cs hfree => exact absurd (lexemes_plain hfree ▸ h) hrun
  | escape before after hfree ih =>
    rw [lexemes_to_escape hfree, List.mem_cons] at h
    exact ih (h.resolve_left (by simp))
  | token before raw rest hfree hlast henclosed ih =>
    obtain ⟨parts', -, hplain, hlexemes⟩ := lexemes_to_token hfree hlast henclosed rest
    rw [hlexemes, List.mem_append, List.mem_cons] at h
    rcases h with h | h | h
    · exact absurd h hrun
    · cases h
      exact hplain
    · exact ih h
  | unended before after hfree hlast hend =>
    rw [lexemes_to_unended hfree hlast hend, List.mem_append] at h
    rcases h with h | h
    · exact absurd h hrun
    · simp at h

theorem raws_read (cs : List Char) :
    raws (read cs) = ((placeholder.lexemes cs).filterMap Lexeme.parts?).map Delimiters.rawOf := by
  unfold read
  induction placeholder.lexemes cs with
  | nil => rfl
  | cons lexeme lexemes ih =>
    rw [List.flatMap_cons, raws_append, ih]
    cases lexeme with
    | text cs =>
      rw [ofLexeme, raws_chars]
      rfl
    | escape before =>
      rw [ofLexeme, raws_append, raws_chars]
      rfl
    | token parts => rfl

theorem tokens_eq (s : String) : placeholder.tokens s = (raws (read s.toList)).map meant := by
  rw [Delimiters.tokens_eq_contents, contents_pieces, raws_read, List.map_map]
  refine List.map_congr_left fun parts hmem => ?_
  obtain ⟨lexeme, hlexeme, hparts⟩ := List.mem_filterMap.1 hmem
  cases lexeme with
  | token =>
    cases hparts
    exact congrArg String.ofList (unescape_of_mem hlexeme).symm
  | _ => cases hparts

theorem contents_keep (s : String) : Piece.contents (placeholder.pieces .keep s) = (raws (read s.toList)).map String.ofList := by
  rw [contents_pieces, raws_read, List.map_map]
  rfl

theorem tokens_text {gs : List Glyph} (h : Sound gs) : placeholder.tokens (.ofList (text gs)) = (raws gs).map meant := by
  rw [tokens_eq, String.toList_ofList, read_text h]

/-! ## Editing contents -/

/-- The unit with its content edited. -/
def mapRaw (f : List Char → List Char) : Glyph → Glyph
  | .token raw => .token (f raw)
  | g => g

theorem map_chars (f : List Char → List Char) (cs : List Char) : (chars cs).map (mapRaw f) = chars cs := by
  induction cs with
  | nil => rfl
  | cons c cs ih =>
    rw [chars_cons, List.map_cons, ih]
    rfl

/-- A text is edited unit by unit. -/
theorem edit_eq (f : String → String) (s : String) :
    placeholder.edit (m := Id) (fun content => placeholder.enclose (f content)) s =
      .ofList (text ((read s.toList).map (mapRaw fun raw => (f (.ofList raw)).toList))) := by
  apply String.toList_injective
  rw [String.toList_ofList, Delimiters.edit_pure, String.toList_join, Delimiters.pieces, List.map_map, read]
  generalize placeholder.lexemes s.toList = lexemes
  induction lexemes with
  | nil => rfl
  | cons lexeme lexemes ih =>
    rw [List.map_cons, List.flatMap_cons, List.flatMap_cons, List.map_append, text_append, ih]
    congr 1
    cases lexeme with
    | text cs => simp [Delimiters.piece, ofLexeme, map_chars, Delimiters.edited]
    | escape before =>
      simp [Delimiters.piece, ofLexeme, map_chars, Delimiters.edited, mapRaw, source, Delimiters.Escapes.mark, placeholder]
    | token parts =>
      simp [Delimiters.piece, ofLexeme, Delimiters.edited, mapRaw, source, Delimiters.Escapes.mark, placeholder,
        Delimiters.enclose, Delimiters.rawOf]

theorem raws_map (f : List Char → List Char) (gs : List Glyph) : raws (gs.map (mapRaw f)) = (raws gs).map f := by
  induction gs with
  | nil => rfl
  | cons g gs ih =>
    cases g with
    | token raw => rw [List.map_cons, mapRaw, raws_cons_token, raws_cons_token, List.map_cons, ih]
    | _ => exact ih

theorem follows_token {c : Char} {raw : List Char} : Follows (char c) (token raw) ↔ c ≠ '\\' := by
  unfold Follows
  split <;> simp_all

theorem follows_mapRaw {f : List Char → List Char} {g h : Glyph} (hfollows : Follows g h) :
    Follows (mapRaw f g) (mapRaw f h) := by
  cases g with
  | char c =>
    cases h with
    | token raw => exact follows_token.2 (follows_token.1 hfollows)
    | _ => exact hfollows
  | escape => trivial
  | token raw => trivial

theorem Sound.map {gs : List Glyph} (h : Sound gs) {f : List Char → List Char}
    (hf : ∀ raw ∈ raws gs, encloses raw = true → encloses (f raw) = true) : Sound (gs.map (mapRaw f)) := by
  refine ⟨?_, fun raw hmem => ?_⟩
  · rw [List.isChain_map]
    exact h.chain.imp fun _ _ => follows_mapRaw
  · rw [← mem_raws, raws_map, List.mem_map] at hmem
    obtain ⟨raw', hmem, rfl⟩ := hmem
    exact hf raw' hmem (h.enclosed raw' (mem_raws.1 hmem))

/-! ## Reading again -/

/-- Plain text is read as its characters, unless it runs into what comes after it. -/
theorem read_chars_append {cs t : List Char} (hfree : Unopened cs) (hhead : t.head? ≠ some '{')
    (hescape : cs.getLast? = some '\\' → ¬ ['#', '{'] <+: t) : read (cs ++ t) = chars cs ++ read t := by
  induction cs with
  | nil => rfl
  | cons c cs ih =>
    rw [unopened_cons] at hfree
    have hrest := ih hfree.2 fun hlast => hescape (by rw [List.getLast?_cons, hlast]; rfl)
    rw [List.cons_append, read_char, hrest, chars_cons, List.cons_append]
    · rintro rfl hhead'
      rw [List.head?_append] at hhead'
      cases cs with
      | nil => exact hhead hhead'
      | cons d cs => exact hfree.1 rfl (by simpa using hhead')
    · rintro rfl hprefix
      cases cs with
      | nil => exact hescape rfl hprefix
      | cons d cs =>
        rw [List.cons_append, List.cons_prefix_cons] at hprefix
        obtain ⟨rfl, hprefix⟩ := hprefix
        have hhead' : (cs ++ t).head? = some '{' := by
          obtain ⟨r, hr⟩ := hprefix
          rw [← hr]
          rfl
        have hunopened := (unopened_cons.1 hfree.2).1 rfl
        cases cs with
        | nil => exact hhead hhead'
        | cons d cs => exact hunopened (by simpa using hhead')

end Glyph

end SqlTemplate
