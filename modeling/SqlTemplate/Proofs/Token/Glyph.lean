import Mathlib.Data.List.Chain
import SqlTemplate.Proofs.Token.Enclosed

/-! # Texts with placeholders, unit by unit

A text is read as characters, escaped opening delimiters and tokens. Every list of these that keeps its units apart is read
back from its text, so that texts can be put together unit by unit.
-/

namespace SqlTemplate

inductive Glyph
  | char (c : Char)
  /-- An escaped opening delimiter. -/
  | escape
  /-- A token with its content as it stands. -/
  | token (raw : List Char)

namespace Glyph

def source : Glyph → List Char
  | .char c => [c]
  | .escape => ['\\', '#', '{']
  | .token raw => '#' :: '{' :: (raw ++ ['}'])

/-- The text that the units make up. -/
def text (gs : List Glyph) : List Char := gs.flatMap source

@[simp]
theorem text_nil : text [] = [] := rfl

@[simp]
theorem text_cons (g : Glyph) (gs : List Glyph) : text (g :: gs) = g.source ++ text gs := rfl

@[simp]
theorem text_append (gs hs : List Glyph) : text (gs ++ hs) = text gs ++ text hs := List.flatMap_append

def chars (cs : List Char) : List Glyph := cs.map char

@[simp]
theorem chars_cons (c : Char) (cs : List Char) : chars (c :: cs) = char c :: chars cs := rfl

@[simp]
theorem text_chars (cs : List Char) : text (chars cs) = cs := by
  induction cs with
  | nil => rfl
  | cons c cs ih => rw [chars_cons, text_cons, ih, source, List.singleton_append]

def ofLexeme : Lexeme → List Glyph
  | .text cs => chars cs
  | .escape before => chars before ++ [.escape]
  | .token parts => [.token (Delimiters.rawOf parts)]

/-- The units of a text. -/
def read (cs : List Char) : List Glyph := (placeholder.lexemes cs).flatMap ofLexeme

end Glyph

/-- Without the proofs that the rest is shorter. -/
theorem lexemes_eq (cs : List Char) :
    placeholder.lexemes cs =
      (Text.breakOn ['#', '{'] cs).elim (Delimiters.textRun cs) fun found =>
        (unescape? found.1).elim
          ((Delimiters.takeToken? ['}'] found.2).elim (Delimiters.textRun found.1 ++ [.text ('#' :: '{' :: found.2)])
            fun taken => Delimiters.textRun found.1 ++ .token taken.1 :: placeholder.lexemes taken.2)
          fun text => .escape text :: placeholder.lexemes found.2 := by
  rw [Delimiters.lexemes]
  split
  · rename_i hb
    rw [show Text.breakOn ['#', '{'] cs = none from hb]
    rfl
  · rename_i before after hb
    rw [show Text.breakOn ['#', '{'] cs = some (before, after) from hb]
    simp only [Option.elim_some]
    split
    · rename_i hu
      simp only [hu, Option.elim_some]
    · rename_i hu
      simp only [hu, Option.elim_none]
      split
      · rename_i parts rest ht
        rw [show Delimiters.takeToken? ['}'] after = some (parts, rest) from ht]
        rfl
      · rename_i ht
        rw [show Delimiters.takeToken? ['}'] after = none from ht]
        rfl

/-- No opening delimiter begins in the text. -/
def Unopened (cs : List Char) : Prop := Text.breakOn ['#', '{'] cs = none

theorem unopened_cons {c : Char} {cs : List Char} :
    Unopened (c :: cs) ↔ (c = '#' → cs.head? ≠ some '{') ∧ Unopened cs := by
  unfold Unopened
  rw [Text.breakOn, Text.after?]
  by_cases hc : c = '#'
  · cases cs with
    | nil => simp [hc, Text.after?]
    | cons d cs => by_cases hd : d = '{' <;> simp [hc, hd, Text.after?, eq_comm (a := '{')]
  · simp [hc, eq_comm (a := '#')]

theorem Unopened.left {a b : List Char} (h : Unopened (a ++ b)) : Unopened a := by
  induction a with
  | nil => rfl
  | cons c a ih =>
    rw [List.cons_append, unopened_cons] at h
    refine unopened_cons.2 ⟨fun hc hhead => h.1 hc ?_, ih h.2⟩
    rw [List.head?_append, hhead]
    rfl

theorem breakOn_cons {c : Char} {cs : List Char} (h : c = '#' → cs.head? ≠ some '{') :
    Text.breakOn ['#', '{'] (c :: cs) = (Text.breakOn ['#', '{'] cs).map fun (before, after) => (c :: before, after) := by
  have hnot : Text.after? ['#', '{'] (c :: cs) = none := by
    rw [Text.after?]
    split
    · rename_i hc
      cases cs with
      | nil => rfl
      | cons d cs => simpa [Text.after?, eq_comm (a := '{')] using h hc.symm
    · rfl
  rw [Text.breakOn, hnot]

theorem breakOn_here (cs : List Char) : Text.breakOn ['#', '{'] ('#' :: '{' :: cs) = some ([], cs) := by
  simp [Text.breakOn, Text.after?]

/-- What stands before an opening delimiter is not taken for one. -/
theorem breakOn_opened {before : List Char} (h : Unopened before) (after : List Char) :
    Text.breakOn ['#', '{'] (before ++ '#' :: '{' :: after) = some (before, after) := by
  induction before with
  | nil => exact breakOn_here after
  | cons c before ih =>
    rw [unopened_cons] at h
    rw [List.cons_append, breakOn_cons, ih h.2, Option.map_some]
    intro hc hhead
    cases before with
    | nil => cases hhead
    | cons d before => exact h.1 hc hhead

theorem breakOn_opening {cs before after : List Char} (h : Text.breakOn ['#', '{'] cs = some (before, after)) :
    cs = before ++ '#' :: '{' :: after ∧ Unopened before := by
  refine ⟨by simpa using Text.eq_append_of_breakOn h, ?_⟩
  induction cs generalizing before with
  | nil => simp [Text.breakOn, Text.after?] at h
  | cons c cs ih =>
    rw [Text.breakOn] at h
    split at h
    · cases h
      rfl
    · rename_i hnot
      obtain ⟨⟨b, r⟩, hb, heq⟩ := Option.map_eq_some_iff.1 h
      cases heq
      refine unopened_cons.2 ⟨fun hc hhead => ?_, ih hb⟩
      obtain ⟨t, rfl⟩ : ∃ t, b = '{' :: t := by
        cases b with
        | nil => cases hhead
        | cons d t => exact ⟨t, by simp_all⟩
      rw [Text.eq_append_of_breakOn hb, hc] at hnot
      simp [Text.after?] at hnot

theorem Unopened.concat {before : List Char} (h : Unopened before) : Unopened (before ++ ['\\']) := by
  induction before with
  | nil => rfl
  | cons c before ih =>
    rw [unopened_cons] at h
    refine unopened_cons.2 ⟨fun hc hhead => ?_, ih h.2⟩
    cases before with
    | nil => cases hhead
    | cons d before => exact h.1 hc hhead

/-! ## Up to the first opening delimiter -/

section First

variable {before after raw : List Char} (hbefore : Unopened before)

include hbefore

theorem lexemes_plain : placeholder.lexemes before = Delimiters.textRun before := by
  have hbreak : Text.breakOn ['#', '{'] before = none := hbefore
  rw [lexemes_eq, hbreak]
  rfl

theorem lexemes_to_escape (after : List Char) :
    placeholder.lexemes (before ++ '\\' :: '#' :: '{' :: after) = .escape before :: placeholder.lexemes after := by
  rw [List.append_cons, lexemes_eq, breakOn_opened hbefore.concat]
  simp [unescape?_concat]

variable (hlast : before.getLast? ≠ some '\\')

include hlast

theorem lexemes_to_token (h : encloses raw = true) (rest : List Char) :
    ∃ parts, Delimiters.rawOf parts = raw ∧ unescape (Delimiters.rawOf parts) = Delimiters.plainOf parts ∧
      placeholder.lexemes (before ++ '#' :: '{' :: (raw ++ '}' :: rest)) =
        Delimiters.textRun before ++ .token parts :: placeholder.lexemes rest := by
  obtain ⟨parts, htake, -, hraw⟩ := Delimiters.takeToken?_enclosed h rest
  refine ⟨parts, hraw, (Delimiters.takeToken?_some htake).2.2.2, ?_⟩
  have hplain : unescape? before = none := if_neg hlast
  rw [lexemes_eq, breakOn_opened hbefore]
  simp [hplain, htake]

theorem lexemes_to_unended (h : Unended after) :
    placeholder.lexemes (before ++ '#' :: '{' :: after) = Delimiters.textRun before ++ [.text ('#' :: '{' :: after)] := by
  have hplain : unescape? before = none := if_neg hlast
  rw [lexemes_eq, breakOn_opened hbefore]
  simp [hplain, h.takeToken?]

end First

/-- A text is plain, or its first opening delimiter is escaped, begins a token or is never closed. -/
theorem opening_induction {P : List Char → Prop}
    (plain : ∀ cs, Unopened cs → P cs)
    (escape : ∀ before after, Unopened before → P after → P (before ++ '\\' :: '#' :: '{' :: after))
    (token : ∀ before raw rest, Unopened before → before.getLast? ≠ some '\\' → encloses raw = true → P rest →
      P (before ++ '#' :: '{' :: (raw ++ '}' :: rest)))
    (unended : ∀ before after, Unopened before → before.getLast? ≠ some '\\' → Unended after →
      P (before ++ '#' :: '{' :: after)) (cs : List Char) : P cs := by
  induction hn : cs.length using Nat.strongRecOn generalizing cs with
  | _ n ih =>
    cases hb : Text.breakOn ['#', '{'] cs with
    | none => exact plain cs hb
    | some found =>
      obtain ⟨before, after⟩ := found
      obtain ⟨rfl, hfree⟩ := breakOn_opening hb
      by_cases hlast : before.getLast? = some '\\'
      · obtain ⟨before, rfl⟩ := List.getLast?_eq_some_iff.1 hlast
        rw [List.append_assoc] at hn ⊢
        refine escape before after hfree.left (ih _ ?_ after rfl)
        rw [← hn]
        simp
        omega
      · cases ht : Delimiters.takeToken? ['}'] after with
        | none => exact unended before after hfree hlast (Delimiters.takeToken?_none ht)
        | some found =>
          obtain ⟨parts, rest⟩ := found
          obtain ⟨-, rfl, henclosed, -⟩ := Delimiters.takeToken?_some ht
          refine token before _ rest hfree hlast henclosed (ih _ ?_ rest rfl)
          rw [← hn]
          simp
          omega

theorem flatMap_textRun (cs : List Char) : (Delimiters.textRun cs).flatMap Glyph.ofLexeme = Glyph.chars cs := by
  cases cs with
  | nil => rfl
  | cons c cs => simp [Delimiters.textRun, Glyph.ofLexeme]

namespace Glyph

section First

variable {before after raw rest : List Char} (hbefore : Unopened before)

include hbefore

theorem read_plain : read before = chars before := by
  rw [read, lexemes_plain hbefore, flatMap_textRun]

theorem read_to_escape : read (before ++ '\\' :: '#' :: '{' :: after) = chars before ++ escape :: read after := by
  rw [read, lexemes_to_escape hbefore, List.flatMap_cons, ofLexeme, List.append_assoc]
  rfl

variable (hlast : before.getLast? ≠ some '\\')

include hlast

theorem read_to_token (h : encloses raw = true) :
    read (before ++ '#' :: '{' :: (raw ++ '}' :: rest)) = chars before ++ token raw :: read rest := by
  obtain ⟨parts, rfl, -, hlexemes⟩ := lexemes_to_token hbefore hlast h rest
  rw [read, hlexemes, List.flatMap_append, flatMap_textRun, List.flatMap_cons]
  rfl

theorem read_to_unended (h : Unended after) :
    read (before ++ '#' :: '{' :: after) = chars (before ++ '#' :: '{' :: after) := by
  rw [read, lexemes_to_unended hbefore hlast h, List.flatMap_append, flatMap_textRun, List.flatMap_singleton, ofLexeme, chars, chars,
    chars, List.map_append]

end First

@[simp]
theorem read_nil : read [] = [] := read_plain rfl

/-- Nothing of a text is lost in its units. -/
theorem text_read (cs : List Char) : text (read cs) = cs := by
  induction cs using opening_induction with
  | plain cs hfree => rw [read_plain hfree, text_chars]
  | escape before after hfree ih =>
    rw [read_to_escape hfree, text_append, text_chars, text_cons, ih]
    rfl
  | token before raw rest hfree hlast henclosed ih =>
    rw [read_to_token hfree hlast henclosed, text_append, text_chars, text_cons, ih]
    simp [source]
  | unended before after hfree hlast hend => rw [read_to_unended hfree hlast hend, text_chars]

/-! ## Reading from the front -/

/-- A character is read by itself if no delimiter and no escape begins with it. -/
theorem read_char {c : Char} {cs : List Char} (hopening : c = '#' → cs.head? ≠ some '{')
    (hescape : c = '\\' → ¬ ['#', '{'] <+: cs) : read (c :: cs) = char c :: read cs := by
  have hcons {before rest : List Char} (hcs : cs = before ++ rest) (h : Unopened before) : Unopened (c :: before) := by
    refine unopened_cons.2 ⟨fun hc hhead => hopening hc ?_, h⟩
    rw [hcs, List.head?_append, hhead]
    rfl
  -- The backslash before a delimiter is the first character only if nothing stands between the two.
  have hlast' {before rest : List Char} (hcs : cs = before ++ '#' :: '{' :: rest) (h : before.getLast? ≠ some '\\') :
      (c :: before).getLast? ≠ some '\\' := by
    intro hlast
    rcases getLast?_cons_iff.1 hlast with hlast | ⟨rfl, rfl⟩
    · exact h hlast
    · exact hescape rfl ⟨rest, hcs.symm⟩
  cases cs using opening_induction with
  | plain cs hfree => rw [read_plain (hcons (List.append_nil cs).symm hfree), read_plain hfree, chars_cons]
  | escape before after hfree =>
    rw [← List.cons_append, read_to_escape (hcons rfl hfree), read_to_escape hfree, chars_cons, List.cons_append]
  | token before raw rest hfree hlast henclosed =>
    rw [← List.cons_append, read_to_token (hcons rfl hfree) (hlast' rfl hlast) henclosed, read_to_token hfree hlast henclosed,
      chars_cons, List.cons_append]
  | unended before after hfree hlast hend =>
    rw [← List.cons_append, read_to_unended (hcons rfl hfree) (hlast' rfl hlast) hend, read_to_unended hfree hlast hend]
    rfl

theorem read_escape (cs : List Char) : read ('\\' :: '#' :: '{' :: cs) = escape :: read cs :=
  @read_to_escape [] cs rfl

theorem read_token {raw : List Char} (h : encloses raw = true) (rest : List Char) :
    read ('#' :: '{' :: (raw ++ '}' :: rest)) = token raw :: read rest :=
  @read_to_token [] raw rest rfl (by simp) h

/-! ## Units that stay apart -/

/-- Side by side the two are not read as anything else. -/
def Follows : Glyph → Glyph → Prop
  | .char '#', .char '{' => False
  | .char '\\', .token _ => False
  | _, _ => True

/-- The units can be told apart in their text. -/
structure Sound (gs : List Glyph) : Prop where
  chain : gs.IsChain Follows
  enclosed : ∀ raw, token raw ∈ gs → encloses raw = true

theorem Sound.nil : Sound [] := ⟨.nil, fun _ h => by cases h⟩

theorem sound_cons {g : Glyph} {gs : List Glyph} :
    Sound (g :: gs) ↔ (∀ h ∈ gs.head?, Follows g h) ∧ (∀ raw, g = token raw → encloses raw = true) ∧ Sound gs := by
  constructor
  · rintro ⟨hchain, henclosed⟩
    rw [List.isChain_cons] at hchain
    exact ⟨hchain.1, fun raw hg => henclosed raw (hg ▸ List.mem_cons_self),
      hchain.2, fun raw hmem => henclosed raw (List.mem_cons_of_mem _ hmem)⟩
  · rintro ⟨hfollows, hg, hchain, henclosed⟩
    refine ⟨List.isChain_cons.2 ⟨hfollows, hchain⟩, fun raw hmem => ?_⟩
    rcases List.mem_cons.1 hmem with heq | hmem
    · exact hg raw heq.symm
    · exact henclosed raw hmem

/-- Before a blank, an opening delimiter can only be that of a token. -/
theorem head_of_opening {gs : List Glyph} (h : Sound gs) {cs : List Char} (hcs : ∀ c ∈ cs.head?, Text.isBlank c = true)
    (hopening : ['#', '{'] <+: text gs ++ cs) : ∃ raw, gs.head? = some (token raw) := by
  obtain ⟨rest, hrest⟩ := hopening
  cases gs with
  | nil =>
    rw [text_nil, List.nil_append] at hrest
    exact absurd (hcs '#' (by rw [← hrest]; rfl)) (by decide)
  | cons g gs =>
    cases g with
    | escape => simp [source] at hrest
    | token raw => exact ⟨raw, rfl⟩
    | char c =>
      cases gs with
      | nil =>
        simp only [text_cons, text_nil, source, List.cons_append, List.nil_append, List.cons.injEq] at hrest
        exact absurd (hcs '{' (by rw [← hrest.2]; rfl)) (by decide)
      | cons g' gs =>
        -- Two characters that make up a delimiter do not stand side by side in sound units.
        have hfollows := (sound_cons.1 h).1 g' rfl
        cases g' with
        | escape => simp [source] at hrest
        | token raw => simp [source] at hrest
        | char c' =>
          simp only [text_cons, source, List.cons_append, List.nil_append, List.cons.injEq] at hrest
          obtain ⟨rfl, rfl, -⟩ := hrest
          exact hfollows.elim

/-- Units are read back from their text, whatever comes after a blank. -/
theorem read_append {gs : List Glyph} (h : Sound gs) {cs : List Char} (hcs : ∀ c ∈ cs.head?, Text.isBlank c = true) :
    read (text gs ++ cs) = gs ++ read cs := by
  induction gs with
  | nil => rfl
  | cons g gs ih =>
    obtain ⟨hfollows, henclosed, hrest⟩ := sound_cons.1 h
    cases g with
    | escape =>
      have htext : text (escape :: gs) ++ cs = '\\' :: '#' :: '{' :: (text gs ++ cs) := rfl
      rw [htext, read_escape, ih hrest, List.cons_append]
    | token raw =>
      have htext : text (token raw :: gs) ++ cs = '#' :: '{' :: (raw ++ '}' :: (text gs ++ cs)) := by simp [source]
      rw [htext, read_token (henclosed raw rfl), ih hrest, List.cons_append]
    | char c =>
      rw [text_cons, source, List.singleton_append, List.cons_append, read_char, ih hrest, List.cons_append]
      · rintro rfl hhead
        cases gs with
        | nil => exact absurd (hcs '{' hhead) (by decide)
        | cons g gs =>
          have hg := hfollows g rfl
          cases g with
          | char d =>
            obtain rfl : d = '{' := by simpa [source] using hhead
            exact hg
          | escape => simp [source] at hhead
          | token raw => simp [source] at hhead
      · rintro rfl hopening
        obtain ⟨raw, hhead⟩ := head_of_opening hrest hcs hopening
        exact hfollows _ hhead

theorem read_text {gs : List Glyph} (h : Sound gs) : read (text gs) = gs := by
  have happend := @read_append gs h [] (by simp)
  rwa [List.append_nil, read_nil, List.append_nil] at happend

end Glyph

end SqlTemplate
