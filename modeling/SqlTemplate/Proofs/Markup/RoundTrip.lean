import SqlTemplate.Proofs.Markup.Written
import SqlTemplate.Proofs.Text.Reading

/-! # Reading written markup

A tree is read back from every text that it may be written as. What stands after a piece of markup begins with a bracket, or is
nothing, so that the piece ends where it was written to end.
-/

namespace SqlTemplate.Markup

open Text Text.Reader

variable {tag key value : String} {attributes : List (String × String)} {items : List Content} {s rest gap body text : List Char}
  {c : Char}

/-! ## Gaps and names -/

theorem skipGaps_append (h : Gaps gap) (rest : List Char) : skipGaps (gap ++ rest) = skipGaps rest := List.dropWhile_append_of_pos h

theorem isNameChar_of_isGap (h : isGap c = true) : isNameChar c = false := by
  simp only [isGap, Bool.or_eq_true, beq_iff_eq] at h
  rcases h with ((rfl | rfl) | rfl) | rfl <;> decide

/-- After gaps comes no character of a name, unless one comes after them. -/
theorem isNameChar_head (hgap : Gaps gap) (rest : List Char) (h : ∀ c ∈ rest.head?, isNameChar c = false) :
    ∀ c ∈ (gap ++ rest).head?, isNameChar c = false := by
  cases gap with
  | nil => exact h
  | cons d gap =>
    intro c hc
    cases hc
    exact isNameChar_of_isGap (hgap d List.mem_cons_self)

theorem name_done (h : IsName tag) (hrest : ∀ c ∈ rest.head?, isNameChar c = false) :
    name (tag.toList ++ rest) = .done tag rest := by
  obtain ⟨htake, hdrop⟩ := run_split h.chars hrest
  have hempty : tag.toList.isEmpty = false := by simpa using h.nonempty
  unfold name
  simp only [htake, hdrop, hempty, String.ofList_toList]
  rfl

theorem IsName.head (h : IsName tag) : ∃ c cs, tag.toList = c :: cs ∧ ∀ d, isNameChar d = false → d ≠ c := by
  obtain ⟨c, cs, hcons⟩ := List.exists_cons_of_ne_nil h.nonempty
  refine ⟨c, cs, hcons, ?_⟩
  rintro d hd rfl
  rw [h.chars d (hcons ▸ List.mem_cons_self)] at hd
  cases hd

theorem skipGaps_name (h : IsName tag) (s : List Char) : skipGaps (tag.toList ++ s) = tag.toList ++ s := by
  obtain ⟨c, cs, hcons, hhead⟩ := h.head
  apply skipGaps_self
  rw [hcons]
  rintro d ⟨⟩
  by_contra hgap
  exact hhead c (isNameChar_of_isGap (Bool.of_not_eq_false hgap)) rfl

theorem name_mismatch (hc : isNameChar c = false) (s : List Char) : name (c :: s) = .mismatch ⟨c :: s, .noName⟩ := by
  unfold name
  simp only [List.takeWhile_cons, hc]
  rfl

/-! ## Sections -/

theorem between_done {opening : List Char} (before : List Char) (hc : c ∉ before) (hbody : ¬ (before ++ [c]) <:+: body) (fault : Fault)
    (rest : List Char) :
    between opening (before ++ [c]) fault (opening ++ (body ++ (before ++ [c] ++ rest))) = .done body rest := by
  simp only [between, List.drop_left, breakOn_pattern before hc hbody]

theorem comment_done (h : ¬ commentEnd <:+: body) (rest : List Char) :
    comment (commentMark ++ (body ++ (commentEnd ++ rest))) = .done body rest :=
  between_done ['-', '-'] (by decide) h .openComment rest

theorem instruction_done (h : ¬ instructionEnd <:+: body) (rest : List Char) :
    instruction (instructionMark ++ (body ++ (instructionEnd ++ rest))) = .done body rest :=
  between_done ['?'] (by decide) h .openInstruction rest

theorem cdata_done (h : ¬ cdataEnd <:+: body) (rest : List Char) :
    cdata (cdataMark ++ (body ++ (cdataEnd ++ rest))) = .done body rest :=
  between_done [']', ']'] (by decide) h .openCData rest

theorem doctype_done (h : ∀ c ∈ body, c ≠ '[' ∧ c ≠ '>') (rest : List Char) :
    doctype (doctypeMark ++ (body ++ '>' :: rest)) = .done () rest := by
  have hbody : ∀ c ∈ body, (c != '[' && c != '>') = true := by simpa using h
  have hdrop : (body ++ '>' :: rest).dropWhile (fun c => c != '[' && c != '>') = '>' :: rest := (run_split hbody (by simp)).2
  simp only [doctype, List.drop_left, hdrop]
  rfl

/-! ## Around the root -/

/-- No gap and nothing that is passed over stands in front. -/
structure Settled (s : List Char) : Prop where
  gaps : skipGaps s = s
  comment : startsWith commentMark s = false
  instruction : startsWith instructionMark s = false
  doctype : startsWith doctypeMark s = false

theorem surroundings_gap (hc : isGap c = true) (fuel : Nat) (s : List Char) :
    surroundings (fuel + 1) (c :: s) = surroundings (fuel + 1) s := by
  have hskip : skipGaps (c :: s) = skipGaps s := List.dropWhile_cons_of_pos hc
  simp only [surroundings, hskip]

theorem surroundings_settled (h : Settled s) (fuel : Nat) : surroundings fuel s = .done () s := by
  cases fuel with
  | zero => rfl
  | succ fuel =>
    simp only [surroundings, h.gaps, h.comment, h.instruction, h.doctype]
    rfl

/-- Every piece takes characters, so the fuel lasts. -/
theorem surroundings_done (h : SurroundingText text) (hrest : Settled rest) {fuel : Nat} (hfuel : text.length < fuel) :
    surroundings fuel (text ++ rest) = .done () rest := by
  induction h generalizing fuel with
  | nil => exact surroundings_settled hrest fuel
  | gap hc hmore ih =>
    obtain ⟨fuel, rfl⟩ : ∃ n, fuel = n + 1 := Nat.exists_eq_add_of_le' (by omega)
    rw [List.cons_append, surroundings_gap hc]
    exact ih (by simp at hfuel; omega)
  | comment hbody hmore ih =>
    obtain ⟨fuel, rfl⟩ : ∃ n, fuel = n + 1 := Nat.exists_eq_add_of_le' (by omega)
    simp only [List.append_assoc]
    exact (bind_done (comment_done hbody _) fun _ => surroundings fuel).trans (ih (by simp [commentMark] at hfuel; omega))
  | instruction hbody hmore ih =>
    obtain ⟨fuel, rfl⟩ : ∃ n, fuel = n + 1 := Nat.exists_eq_add_of_le' (by omega)
    simp only [List.append_assoc]
    exact (bind_done (instruction_done hbody _) fun _ => surroundings fuel).trans (ih (by simp [instructionMark] at hfuel; omega))
  | doctype hbody hmore ih =>
    obtain ⟨fuel, rfl⟩ : ∃ n, fuel = n + 1 := Nat.exists_eq_add_of_le' (by omega)
    simp only [List.append_assoc, List.cons_append]
    exact (bind_done (doctype_done hbody _) fun _ => surroundings fuel).trans (ih (by simp [doctypeMark] at hfuel; omega))

theorem misc_done (h : SurroundingText text) (hrest : Settled rest) : misc (text ++ rest) = .done () rest :=
  surroundings_done h hrest (by rw [List.length_append]; omega)

/-! ## Tags -/

theorem equalsSign_done {before after : List Char} (hbefore : Gaps before) (hafter : Gaps after) (rest : List Char) :
    equalsSign (before ++ '=' :: (after ++ rest)) = .done () (skipGaps rest) := by
  have hskip : skipGaps (before ++ '=' :: (after ++ rest)) = '=' :: (after ++ rest) := skipGaps_append hbefore _
  simp only [equalsSign, hskip, skipGaps_append hafter]

theorem quotedValue_done {quote : Char} {raw : List Char} (hquote : quote = '"' ∨ quote = '\'')
    (hvalue : Entity.Encodes ['&', '<', quote] value.toList raw) (key : String) (rest : List Char) :
    quotedValue key (quote :: (raw ++ quote :: rest)) = .done value rest := by
  have hmem : quote ∉ raw := hvalue.notMem (by rcases hquote with rfl | rfl <;> decide) (by simp)
  have hdecide : (decide (quote = '"') || decide (quote = '\'')) = true := by simpa using hquote
  simp only [quotedValue, if_pos hdecide, breakOn_append hmem, hvalue.decode (by simp), String.ofList_toList]

theorem attributePair_done {before after raw : List Char} {quote : Char} (hkey : IsName key) (hbefore : Gaps before)
    (hafter : Gaps after) (hquote : quote = '"' ∨ quote = '\'') (hvalue : Entity.Encodes ['&', '<', quote] value.toList raw)
    (rest : List Char) :
    attributePair (key.toList ++ (before ++ '=' :: (after ++ quote :: (raw ++ quote :: rest)))) = .done (key, value) rest := by
  have hhead := isNameChar_head hbefore ('=' :: (after ++ quote :: (raw ++ quote :: rest))) (by rintro c ⟨⟩; decide)
  have hsign := equalsSign_done hbefore hafter (quote :: (raw ++ quote :: rest))
  have hskip : skipGaps (quote :: (raw ++ quote :: rest)) = quote :: (raw ++ quote :: rest) :=
    skipGaps_self (by rcases hquote with rfl | rfl <;> simp [isGap])
  rw [hskip] at hsign
  unfold attributePair
  rw [bind_done (name_done hkey hhead), bind_done hsign, bind_done (quotedValue_done hquote hvalue key rest)]
  rfl

/-- What ends a tag: no gap and no character of a name. -/
def EndsTag (s : List Char) : Prop := ∃ c rest, s = c :: rest ∧ (c = '>' ∨ c = '/')

theorem attributesFrom_stops (hgap : Gaps gap) (hrest : EndsTag rest) (fuel : Nat) :
    attributesFrom fuel (gap ++ rest) = .done [] (gap ++ rest) := by
  obtain ⟨c, after, rfl, hc⟩ := hrest
  have hname : isNameChar c = false := by rcases hc with rfl | rfl <;> decide
  have hskip : skipGaps (gap ++ c :: after) = c :: after := by
    rw [skipGaps_append hgap]
    exact skipGaps_self (by rcases hc with rfl | rfl <;> simp [isGap])
  have hpair : attributePair (c :: after) = .mismatch ⟨c :: after, .noName⟩ := by
    unfold attributePair
    rw [bind_mismatch (name_mismatch hname after)]
  cases fuel with
  | zero => rfl
  | succ fuel => simp only [attributesFrom, hskip, hpair, ite_self]

theorem AttributesText.length_le (h : AttributesText attributes text) : attributes.length ≤ text.length := by
  induction h with
  | nil => exact le_rfl
  | cons hgap hne hbefore hafter hquote hvalue hmore ih =>
    simp only [List.length_cons, List.length_append]
    omega

theorem attributesFrom_cons {a : String × String} (hgap : Gaps gap) (hne : gap ≠ []) (h : attributePair (skipGaps s) = .done a rest)
    (fuel : Nat) : attributesFrom (fuel + 1) (gap ++ s) = (attributesFrom fuel >>= fun more => pure (a :: more)) rest := by
  have hhead : (gap ++ s).head?.any isGap = true := by
    cases gap with
    | nil => exact absurd rfl hne
    | cons c gap => exact hgap c List.mem_cons_self
  simp only [attributesFrom, hhead, skipGaps_append hgap, h, if_true]

theorem attributesFrom_done (h : AttributesText attributes text) (hkeys : ∀ a ∈ attributes, IsName a.1) (hgap : Gaps gap)
    (hrest : EndsTag rest) {fuel : Nat} (hfuel : attributes.length ≤ fuel) :
    attributesFrom fuel (text ++ (gap ++ rest)) = .done attributes (gap ++ rest) := by
  induction h generalizing fuel with
  | nil => exact attributesFrom_stops hgap hrest fuel
  | @cons _ _ _ _ _ _ _ text _ hfirst hne hbefore hafter hquote hvalue hmore ih =>
    rw [List.forall_mem_cons] at hkeys
    obtain ⟨fuel, rfl⟩ : ∃ n, fuel = n + 1 := Nat.exists_eq_add_of_le' (by simp at hfuel; omega)
    have hpair := attributePair_done hkeys.1 hbefore hafter hquote hvalue (text ++ (gap ++ rest))
    rw [← skipGaps_name hkeys.1] at hpair
    simp only [List.append_assoc, List.cons_append]
    rw [attributesFrom_cons hfirst hne hpair, bind_done (ih hkeys.2 (by simpa using hfuel))]
    rfl

theorem here_done (s : List Char) : here s = .done s s := rfl

theorem gaps_append (h : Gaps gap) (hrest : skipGaps rest = rest) : (gaps : Parser Unit) (gap ++ rest) = .done () rest := by
  rw [gaps, skipGaps_append h, hrest]

theorem accept_done (mark rest : List Char) : accept mark (mark ++ rest) = .done true rest := by
  rw [accept, after?_append]

theorem closeTag_done (h : IsName tag) (hgap : Gaps gap) (start rest : List Char) :
    closeTag start tag (closeMark ++ (tag.toList ++ (gap ++ '>' :: rest))) = .done () rest := by
  have hhead := isNameChar_head hgap ('>' :: rest) (by rintro c ⟨⟩; decide)
  unfold closeTag
  rw [bind_done (here_done _), bind_done (accept_done _ _), if_pos rfl, bind_done (name_done h hhead), if_neg (by simp),
    bind_done (gaps_append hgap rfl)]
  rfl

/-- What ends a tag is no part of a name or gap. -/
theorem EndsTag.head (h : EndsTag rest) : ∀ c ∈ rest.head?, isNameChar c = false := by
  obtain ⟨c, after, rfl, hc⟩ := h
  rintro d ⟨⟩
  rcases hc with rfl | rfl <;> decide

theorem EndsTag.skipGaps (h : EndsTag rest) : skipGaps rest = rest := by
  obtain ⟨c, after, rfl, hc⟩ := h
  exact skipGaps_self (by rcases hc with rfl | rfl <;> simp [isGap])

theorem AttributesText.head (h : AttributesText attributes text) (hrest : ∀ c ∈ rest.head?, isNameChar c = false) :
    ∀ c ∈ (text ++ rest).head?, isNameChar c = false := by
  cases h with
  | nil => exact hrest
  | @cons _ _ _ first _ _ _ _ _ hfirst hne =>
    cases first with
    | nil => exact absurd rfl hne
    | cons d first =>
      rintro c ⟨⟩
      exact isNameChar_of_isGap (hfirst d List.mem_cons_self)

/-- The tag is read up to the bracket or slash that ends it. -/
theorem elementWith_tag (h : TagText tag attributes text) (htag : IsName tag) (hkeys : ∀ a ∈ attributes, IsName a.1)
    (hrest : EndsTag rest) (child : Parser Content) :
    elementWith child (text ++ rest) = (do
      if ← accept ['/', '>'] then pure (.element tag attributes [])
      else
        let s ← here
        if ← accept ['>'] then
          let children ← Markup.contents child
          closeTag (text ++ rest) tag
          pure (.element tag attributes children)
        else fail s (.openTag tag) : Parser Content) rest := by
  obtain ⟨hattributes, hgap⟩ := h
  rename_i text gap
  have hname := name_done htag (hattributes.head (isNameChar_head hgap rest hrest.head))
  have hfuel : attributes.length ≤ (text ++ (gap ++ rest)).length := by
    have hlength := hattributes.length_le
    rw [List.length_append]
    omega
  have hread : Markup.attributes (text ++ (gap ++ rest)) = .done attributes (gap ++ rest) :=
    attributesFrom_done hattributes hkeys hgap hrest hfuel
  have hbracket : openingBracket ('<' :: (tag.toList ++ (text ++ (gap ++ rest)))) = .done () (tag.toList ++ (text ++ (gap ++ rest))) := rfl
  simp only [List.cons_append, List.append_assoc]
  unfold elementWith
  rw [bind_done (here_done _), bind_done hbracket, bind_done hname, bind_done hread, bind_done (gaps_append hgap hrest.skipGaps)]

theorem elementWith_childless (h : TagText tag attributes text) (htag : IsName tag) (hkeys : ∀ a ∈ attributes, IsName a.1)
    (child : Parser Content) (rest : List Char) :
    elementWith child (text ++ '/' :: '>' :: rest) = .done (.element tag attributes []) rest := by
  rw [elementWith_tag h htag hkeys ⟨'/', '>' :: rest, rfl, .inr rfl⟩]
  rfl

theorem elementWith_children (h : TagText tag attributes text) (htag : IsName tag) (hkeys : ∀ a ∈ attributes, IsName a.1)
    (hgap : Gaps gap) (rest : List Char) {child : Parser Content} {children : List Content} {inner : List Char}
    (hread : Markup.contents child (inner ++ (closeMark ++ (tag.toList ++ (gap ++ '>' :: rest)))) =
      .done children (closeMark ++ (tag.toList ++ (gap ++ '>' :: rest)))) :
    elementWith child (text ++ '>' :: (inner ++ (closeMark ++ (tag.toList ++ (gap ++ '>' :: rest))))) =
      .done (.element tag attributes children) rest := by
  rw [elementWith_tag h htag hkeys ⟨'>', _, rfl, .inl rfl⟩]
  have haccept : accept ['/', '>'] ('>' :: (inner ++ (closeMark ++ (tag.toList ++ (gap ++ '>' :: rest))))) = .done false _ := rfl
  have hend : accept ['>'] ('>' :: (inner ++ (closeMark ++ (tag.toList ++ (gap ++ '>' :: rest))))) = .done true _ := rfl
  rw [bind_done haccept, if_neg (by simp), bind_done (here_done _), bind_done hend, if_pos rfl, bind_done hread,
    bind_done (closeTag_done htag hgap _ rest)]
  rfl

/-! ## Contents -/

/-- What stands after contents: nothing, or a closing tag. -/
def EndsContents (s : List Char) : Prop := s = [] ∨ ∃ rest, s = closeMark ++ rest

theorem contentsFrom_ends (h : EndsContents rest) (child : Parser Content) (fuel : Nat) :
    contentsFrom child fuel rest = .done [] rest := by
  cases fuel with
  | zero => rfl
  | succ fuel => rcases h with rfl | ⟨rest, rfl⟩ <;> rfl

/-- What stands after a text begins with a bracket, since no text stands there. -/
theorem ContentsText.head (h : ContentsText items text) (hapart : ∀ next, items.head? ≠ some (.text next))
    (hrest : EndsContents rest) : ∀ c ∈ (text ++ rest).head?, c = '<' := by
  cases h with
  | nil =>
    rcases hrest with rfl | ⟨rest, rfl⟩
    · simp
    · rintro c ⟨⟩; rfl
  | text => exact absurd rfl (hapart _)
  | cdata => rintro c ⟨⟩; rfl
  | childless hopening =>
    obtain ⟨hattributes, hgap⟩ := hopening
    rintro c ⟨⟩; rfl
  | element hopening =>
    obtain ⟨hattributes, hgap⟩ := hopening
    rintro c ⟨⟩; rfl

theorem textRun_done {t : String} {raw : List Char} (hraw : Entity.Encodes ['&', '<'] t.toList raw)
    (hrest : ∀ c ∈ rest.head?, c = '<') : textRun (raw ++ rest) = .done (.text t) rest := by
  have hrun : ∀ c ∈ raw, (c != '<') = true := by
    intro c hc
    have hmem := hraw.notMem (x := '<') (by decide) (by decide)
    simpa using fun heq : c = '<' => hmem (heq ▸ hc)
  have hend : ∀ c ∈ rest.head?, (c != '<') = false := fun c hc => by simp [hrest c hc]
  obtain ⟨htake, hdrop⟩ := run_split hrun hend
  simp only [textRun, htake, hdrop, hraw.decode (by decide), String.ofList_toList]

theorem opening_text {t : String} {raw : List Char} (hraw : Entity.Encodes ['&', '<'] t.toList raw) (hne : t.toList ≠ [])
    (rest : List Char) : opening (raw ++ rest) = .text := by
  have hmem := hraw.notMem (x := '<') (by decide) (by decide)
  obtain ⟨c, more, rfl⟩ := List.exists_cons_of_ne_nil (hraw.ne_nil hne)
  rw [List.mem_cons, not_or] at hmem
  simp [opening, startsWith, after?, closeMark, commentMark, cdataMark, instructionMark, hmem.1, Ne.symm hmem.1]

theorem opening_tag (h : TagText tag attributes text) (htag : IsName tag) (rest : List Char) : opening (text ++ rest) = .element := by
  obtain ⟨hattributes, hgap⟩ := h
  obtain ⟨c, cs, hcons, hhead⟩ := htag.head
  simp [hcons, opening, startsWith, after?, closeMark, commentMark, cdataMark, instructionMark, hhead '/' (by decide),
    hhead '!' (by decide), hhead '?' (by decide)]

/-- How a piece of content is read that is kept, by its first characters. -/
inductive PieceReader (child : Parser Content) : Opening → Parser Content → Prop
  | text : PieceReader child .text textRun
  | cdata : PieceReader child .cdata (cdata >>= fun data => pure (.cdata (.ofList data)))
  | element : PieceReader child .element child

theorem contentsFrom_cons {child p : Parser Content} {piece : Content} {after : List Char} {fuel : Nat}
    (hp : PieceReader child (opening s) p) (hread : p s = .done piece rest) (hmore : contentsFrom child fuel rest = .done items after) :
    contentsFrom child (fuel + 1) s = .done (piece :: items) after := by
  have hbefore : (p >>= fun c => contentsFrom child fuel >>= fun more => pure (c :: more)) s = .done (piece :: items) after := by
    rw [bind_done hread, bind_done hmore]
    rfl
  generalize hopening : opening s = o at hp
  cases hp with
  | text | cdata | element => simpa only [contentsFrom, hopening] using hbefore

/-- Contents are read back as far as they were written. Every level takes characters, so neither the limit nor the fuel is met. -/
theorem ContentsText.read (h : ContentsText items text) (hsound : Sound items) (hrest : EndsContents rest) {limit fuel : Nat}
    (hlimit : text.length ≤ limit) (hfuel : text.length < fuel) :
    contentsFrom (Markup.element limit) fuel (text ++ rest) = .done items rest := by
  induction h generalizing rest limit fuel with
  | nil => exact contentsFrom_ends hrest _ _
  | text hraw hmore ih =>
    cases hsound with
    | text hne hapart hsound =>
      obtain ⟨fuel, rfl⟩ : ∃ n, fuel = n + 1 := Nat.exists_eq_add_of_le' (by omega)
      have hlength := List.length_pos_of_ne_nil (hraw.ne_nil hne)
      rw [List.length_append] at hlimit hfuel
      rw [List.append_assoc]
      refine contentsFrom_cons ?_ (textRun_done hraw (hmore.head hapart hrest)) (ih hsound hrest (by omega) (by omega))
      rw [opening_text hraw hne]
      exact .text
  | cdata hmore ih =>
    cases hsound with
    | cdata hdata hsound =>
      obtain ⟨fuel, rfl⟩ : ∃ n, fuel = n + 1 := Nat.exists_eq_add_of_le' (by omega)
      simp only [List.length_append, cdataMark, List.length_cons] at hlimit hfuel
      simp only [List.append_assoc]
      refine contentsFrom_cons .cdata ?_ (ih hsound hrest (by omega) (by omega))
      rw [bind_done (cdata_done hdata _), String.ofList_toList]
      rfl
  | childless hopening hmore ih =>
    cases hsound with
    | element htag hkeys hchildren hsound =>
      obtain ⟨fuel, rfl⟩ : ∃ n, fuel = n + 1 := Nat.exists_eq_add_of_le' (by omega)
      simp only [List.length_append, List.length_cons] at hlimit hfuel
      obtain ⟨limit, rfl⟩ : ∃ n, limit = n + 1 := Nat.exists_eq_add_of_le' (by omega)
      simp only [List.append_assoc, List.cons_append]
      refine contentsFrom_cons ?_ (elementWith_childless hopening htag hkeys (Markup.element limit) _)
        (ih hsound hrest (by omega) (by omega))
      rw [opening_tag hopening htag]
      exact .element
  | @element tag attributes children more opening inner gap after hopening hchildren hgap hmore ihchildren ih =>
    cases hsound with
    | element htag hkeys hinner hsound =>
      obtain ⟨fuel, rfl⟩ : ∃ n, fuel = n + 1 := Nat.exists_eq_add_of_le' (by omega)
      simp only [List.length_append, List.length_cons] at hlimit hfuel
      obtain ⟨limit, rfl⟩ : ∃ n, limit = n + 1 := Nat.exists_eq_add_of_le' (by omega)
      -- The tags around the children take more characters than the one level that is lost.
      have hinnerLimit : inner.length ≤ limit := by omega
      have hread := elementWith_children hopening htag hkeys hgap (after ++ rest)
        (ihchildren hinner (.inr ⟨_, rfl⟩) hinnerLimit (by rw [List.length_append]; omega))
      simp only [List.append_assoc, List.cons_append]
      refine contentsFrom_cons ?_ hread (ih hsound hrest (by omega) (by omega))
      rw [opening_tag hopening htag]
      exact .element

/-! ## Documents -/

theorem settled_nil : Settled [] := ⟨rfl, rfl, rfl, rfl⟩

theorem settled_tag (h : TagText tag attributes text) (htag : IsName tag) (rest : List Char) : Settled (text ++ rest) := by
  obtain ⟨hattributes, hgap⟩ := h
  obtain ⟨c, cs, hcons, hhead⟩ := htag.head
  have hmark := hhead '!' (by decide)
  have hquestion := hhead '?' (by decide)
  refine ⟨rfl, ?_, ?_, ?_⟩
  · simp [hcons, startsWith, after?, commentMark, hmark]
  · simp [hcons, startsWith, after?, instructionMark, hquestion]
  · simp [hcons, startsWith, after?, doctypeMark, hmark]

/-- The root is read, and what stands before it ends at its tag. -/
theorem root_done {root : Element} (hsound : Sound [root.toContent]) (h : ContentsText [root.toContent] text) {limit : Nat}
    (hlimit : text.length ≤ limit) (rest : List Char) :
    Settled (text ++ rest) ∧ Markup.element (limit + 1) (text ++ rest) = .done root.toContent rest := by
  obtain ⟨tag, attributes, children⟩ := root
  obtain _ | _ | _ | ⟨htag, hkeys, hchildren, -⟩ := hsound
  cases h with
  | childless hopening hmore =>
    cases hmore
    rw [List.append_assoc]
    exact ⟨settled_tag hopening htag _, elementWith_childless hopening htag hkeys _ rest⟩
  | @element _ _ _ _ opening inner gap _ hopening hinner hgap hmore =>
    cases hmore
    simp only [List.length_append, List.length_cons] at hlimit
    have hinnerLimit : inner.length ≤ limit := by omega
    have hread := elementWith_children hopening htag hkeys hgap rest
      (hinner.read hchildren (.inr ⟨_, rfl⟩) hinnerLimit (by rw [List.length_append]; omega))
    simp only [List.append_assoc, List.cons_append]
    exact ⟨settled_tag hopening htag _, hread⟩

theorem document_done {root : Element} (hsound : Sound [root.toContent]) (h : DocumentText root text) :
    document text = .done root.toContent [] := by
  obtain @⟨before, text, after, hbefore, hroot, hafter⟩ := h
  have hlength : text.length ≤ (text ++ after).length := by rw [List.length_append]; omega
  obtain ⟨hsettled, hread⟩ := root_done hsound hroot hlength after
  have hempty : (text ++ after).isEmpty = false := by
    cases hall : text ++ after with
    | nil =>
      rw [hall] at hread
      cases hread
    | cons c cs => rfl
  have hend : misc after = .done () [] := by
    have hmisc := misc_done hafter settled_nil
    rwa [List.append_nil] at hmisc
  unfold document
  rw [bind_done (misc_done hbefore hsettled), bind_done (here_done _), if_neg (by simp [hempty]), bind_done hread,
    bind_done hend, bind_done (here_done _)]
  rfl

/-- A tree can be written, and it is read back from every text that it may be written as. -/
theorem parse_documentText {root : Element} (hsound : Sound [root.toContent]) :
    (∃ text, DocumentText root text) ∧ ∀ text, DocumentText root text → parse (.ofList text) = .ok root := by
  constructor
  · obtain ⟨text, htext⟩ := hsound.exists_contentsText
    exact ⟨_, .document .nil htext .nil⟩
  · intro text h
    rw [parse, String.toList_ofList]
    simp only [document_done hsound h]
    rfl

/-- A statement with a quote in a value, a comparison in a text and in literal text, and a childless element. -/
theorem parse_documentText_statement :
    ∃ root : Element, Sound [root.toContent] ∧
      parse "<!DOCTYPE mapper>\n<select id='a\"&apos;'>1 &lt; &#x32;<![CDATA[ < ]]><br/></select ><!-- > -->" = .ok root := by
  let root : Element := ⟨"select", [("id", "a\"'")], [.text "1 < 2", .cdata " < ", .element "br" [] []]⟩
  have hname {name : String} (hne : name.toList ≠ []) (h : name.toList.all isNameChar = true) : IsName name :=
    ⟨hne, List.all_eq_true.1 h⟩
  have hsound : Sound [root.toContent] := by
    refine .element (hname (by decide) (by decide)) ?_ ?_ .nil
    · intro a ha
      cases List.mem_singleton.1 ha
      exact hname (by decide) (by decide)
    · refine .text (by decide) (by simp) (.cdata ?_ (.element (hname (by decide) (by decide)) (by simp) .nil .nil))
      decide
  have hspace : Gaps [' '] := by simp [Gaps, isGap]
  have hnone : Gaps [] := by simp [Gaps]
  have hvalue : Entity.Encodes ['&', '<', '\''] ['a', '"', '\''] ('a' :: '"' :: '&' :: (['a', 'p', 'o', 's'] ++ ';' :: [])) :=
    .plain (by decide) (.plain (by decide) (.entity .apos .nil))
  have htwo : Entity.Names ('#' :: 'x' :: (['3'] ++ ['2'])) '2' :=
    .hexadecimal (.inl rfl) (.append (n := 3) (d := 2) (.digit (d := 3) (by decide) (.inl rfl)) (by decide) (.inl rfl))
  have hrun : Entity.Encodes ['&', '<'] ['1', ' ', '<', ' ', '2'] _ :=
    .plain (by decide) (.plain (by decide) (.entity .lt (.plain (by decide) (.entity htwo .nil))))
  have hroot : ContentsText [root.toContent] _ :=
    .element (.tag (.cons hspace (by simp) hnone hnone (.inr rfl) hvalue .nil) hnone)
      (.text hrun (.cdata (.childless (.tag .nil hnone) .nil))) hspace .nil
  have hmapper : ∀ c ∈ [' ', 'm', 'a', 'p', 'p', 'e', 'r'], c ≠ '[' ∧ c ≠ '>' := by simp
  have hcomment : ¬ commentEnd <:+: [' ', '>', ' '] := by decide
  have htext : DocumentText root _ :=
    .document (.doctype hmapper (.gap (c := '\n') (by decide) .nil)) hroot (.comment hcomment .nil)
  refine ⟨root, hsound, (congrArg parse ?_).trans ((parse_documentText hsound).2 _ htext)⟩
  decide

end SqlTemplate.Markup
