import Mathlib.Data.List.TakeDrop
import SqlTemplate.Proofs.Text.Edge
import SqlTemplate.Proofs.Token.Shrink
import SqlTemplate.Template.Clause

/-! # Clear texts

A text is clear if outside its placeholders it has no backslash but that of an escape, and not one of the two characters of an
opening delimiter. However such texts are cut and put together, no placeholder begins or ends where none did before.
-/

namespace SqlTemplate

open Text

namespace Glyph

/-- The unit is no backslash and not the given character, and the content of a token passes the check. -/
def isClear (half : Char) (check : String → Bool) : Glyph → Bool
  | .char c => c != half && c != '\\'
  | .escape => true
  | .token raw => encloses raw && check (meant raw)

variable {half : Char} {check : String → Bool} {gs : List Glyph} {n : Nat}

theorem isClear_char {c : Char} : isClear half check (char c) = true ↔ c ≠ half ∧ c ≠ '\\' := by simp [isClear]

theorem follows_of_clear (hhalf : half = '#' ∨ half = '{') {g h : Glyph} (hg : g.isClear half check = true)
    (hh : h.isClear half check = true) : Follows g h := by
  unfold Follows
  split
  · rw [isClear_char] at hg hh
    rcases hhalf with rfl | rfl
    · exact hg.1 rfl
    · exact hh.1 rfl
  · rw [isClear_char] at hg
    exact hg.2 rfl
  · trivial

theorem sound_of_clear (hhalf : half = '#' ∨ half = '{') (h : ∀ g ∈ gs, g.isClear half check = true) : Sound gs := by
  induction gs with
  | nil => exact .nil
  | cons g gs ih =>
    rw [List.forall_mem_cons] at h
    refine sound_cons.2 ⟨fun g' hg' => follows_of_clear hhalf h.1 (h.2 g' (List.mem_of_mem_head? hg')), fun raw heq => ?_, ih h.2⟩
    have hclear := h.1
    rw [heq, isClear, Bool.and_eq_true] at hclear
    exact hclear.1

/-! ## Cutting

Where a delimiter would have to be cut apart, nothing is cut off.
-/

theorem drop_clear (h : ∀ g ∈ gs, g.isClear half check = true) (hfree : ∀ c ∈ (text gs).take n, c ≠ '\\' ∧ c ≠ '#') :
    ∃ hs, (∀ g ∈ hs, g.isClear half check = true) ∧ text hs = (text gs).drop n := by
  induction gs generalizing n with
  | nil => exact ⟨[], by simp, by simp⟩
  | cons g gs ih =>
    cases n with
    | zero => exact ⟨g :: gs, h, rfl⟩
    | succ n =>
      cases g with
      | char c => exact ih (List.forall_mem_cons.1 h).2 fun d hd => hfree d (List.mem_cons_of_mem _ hd)
      | escape => exact absurd rfl (hfree '\\' List.mem_cons_self).1
      | token raw => exact absurd rfl (hfree '#' List.mem_cons_self).2

theorem take_clear (h : ∀ g ∈ gs, g.isClear half check = true) (hfree : ∀ c ∈ (text gs).drop n, c ≠ '{' ∧ c ≠ '}') :
    ∃ hs, (∀ g ∈ hs, g.isClear half check = true) ∧ text hs = (text gs).take n := by
  induction gs using List.reverseRecOn with
  | nil => exact ⟨[], by simp, by simp⟩
  | append_singleton gs g ih =>
    by_cases hn : (text (gs ++ [g])).length ≤ n
    · exact ⟨gs ++ [g], h, (List.take_of_length_le hn).symm⟩
    · have hlast : ∀ c ∈ g.source.getLast?, c ≠ '{' ∧ c ≠ '}' := by
        intro c hc
        refine hfree c (List.mem_of_getLast? ?_)
        rw [List.getLast?_drop, if_neg hn, text_append]
        rw [List.getLast?_append, show text [g] = g.source from List.append_nil _, Option.mem_def.1 hc]
        rfl
      cases g with
      | char c =>
        have htext : text (gs ++ [char c]) = text gs ++ [c] := text_append gs [char c]
        rw [htext, List.length_append, List.length_singleton] at hn
        rw [htext, List.drop_append_of_le_length (by omega)] at hfree
        rw [htext, List.take_append_of_le_length (by omega)]
        exact ih (fun g hg => h g (List.mem_append_left _ hg)) fun d hd => hfree d (List.mem_append_left _ hd)
      | escape => exact absurd rfl (hlast '{' rfl).1
      | token raw =>
        have hsource : source (token raw) = '#' :: '{' :: raw ++ ['}'] := rfl
        exact absurd rfl (hlast '}' (by rw [hsource, List.getLast?_concat]; rfl)).2

end Glyph

/-! ## Texts -/

def isClear (half : Char) (check : String → Bool) (s : String) : Bool := (Glyph.read s.toList).all (Glyph.isClear half check)

section

variable {half : Char} {check : String → Bool} {s t : String}

/-- Every placeholder of a clear text has passed the check. -/
theorem check_of_isClear (h : isClear half check s = true) : ∀ content ∈ placeholder.tokens s, check content = true := by
  intro content hcontent
  rw [Glyph.tokens_eq, List.mem_map] at hcontent
  obtain ⟨raw, hraw, rfl⟩ := hcontent
  have hclear := List.all_eq_true.1 h _ (Glyph.mem_raws.1 hraw)
  rw [Glyph.isClear, Bool.and_eq_true] at hclear
  exact hclear.2

variable (hhalf : half = '#' ∨ half = '{')

include hhalf

theorem isClear_iff {cs : List Char} :
    isClear half check (.ofList cs) = true ↔ ∃ gs, (∀ g ∈ gs, g.isClear half check = true) ∧ Glyph.text gs = cs := by
  rw [isClear, String.toList_ofList, List.all_eq_true]
  constructor
  · exact fun h => ⟨_, h, Glyph.text_read cs⟩
  · rintro ⟨gs, hgs, rfl⟩
    rwa [Glyph.read_text (Glyph.sound_of_clear hhalf hgs)]

theorem isClear_append (hs : isClear half check s = true) (ht : isClear half check t = true) :
    isClear half check (s ++ t) = true := by
  rw [← String.ofList_toList (s := s), ← String.ofList_toList (s := t)] at *
  obtain ⟨gs, hgs, hs⟩ := (isClear_iff hhalf).1 hs
  obtain ⟨gs', hgs', ht⟩ := (isClear_iff hhalf).1 ht
  rw [← String.ofList_append, isClear_iff hhalf]
  refine ⟨gs ++ gs', fun g hg => (List.mem_append.1 hg).elim (hgs g) (hgs' g), ?_⟩
  rw [Glyph.text_append, hs, ht]

theorem isClear_trim {cs : List Char} (h : isClear half check (.ofList cs) = true) : isClear half check (.ofList (trim cs)) = true := by
  obtain ⟨gs, hgs, rfl⟩ := (isClear_iff hhalf).1 h
  refine (isClear_iff hhalf).2 ⟨Glyph.trimmed gs, fun g hg => hgs g ?_, Glyph.text_trimmed gs⟩
  exact (List.dropWhile_suffix _).subset ((List.rdropWhile_prefix _ _).subset hg)

end

/-! ## Taking off overrides -/

/-- The characters of delimiters and escapes, none of which has a case. -/
def marks : List Char := ['#', '{', '}', '\\']

/-- An override that does not reach into a placeholder. -/
def isPlainOverride (override : String) : Bool := override.toList.all fun c => c ∉ marks

theorem sameLetter_mark {c d : Char} (h : sameLetter d c = true) (hc : c ∈ marks) : d = c := by
  refine eq_of_sameLetter (by rwa [sameLetter, beq_iff_eq, eq_comm, ← beq_iff_eq]) ?_
  simp only [marks, List.mem_cons, List.not_mem_nil, or_false] at hc
  rcases hc with rfl | rfl | rfl | rfl <;> decide

/-- Where a pattern without marks was found there are none in the text. -/
theorem unmarked_of_startsLike {pattern cs : List Char} (h : startsLike pattern cs = true) (hpattern : ∀ d ∈ pattern, d ∉ marks)
    {n : Nat} (hn : n ≤ pattern.length) : ∀ c ∈ cs.take n, c ∉ marks := by
  intro c hc hmark
  have hmem : c ∈ cs.take pattern.length := (List.take_prefix_take_left hn).subset hc
  obtain ⟨d, hd, hsame⟩ := mem_of_sameText h c hmem
  exact hpattern d hd (sameLetter_mark hsame hmark ▸ hmark)

theorem unmarked_of_endsLike {pattern cs : List Char} (h : endsLike pattern cs = true) (hpattern : ∀ d ∈ pattern, d ∉ marks)
    {n : Nat} (hn : n ≤ pattern.length) : ∀ c ∈ cs.drop (cs.length - n), c ∉ marks := by
  rw [endsLike, Bool.and_eq_true] at h
  intro c hc
  refine unmarked_of_startsLike h.2 (fun d hd => hpattern d (List.mem_reverse.1 hd)) (by simpa using hn) c ?_
  rwa [List.take_reverse, List.mem_reverse]

section

variable {half : Char} {check : String → Bool} (hhalf : half = '#' ∨ half = '{') {cs : List Char}

include hhalf

theorem isClear_drop {n : Nat} (h : isClear half check (.ofList cs) = true) (hfree : ∀ c ∈ cs.take n, c ∉ marks) :
    isClear half check (.ofList (cs.drop n)) = true := by
  obtain ⟨gs, hgs, rfl⟩ := (isClear_iff hhalf).1 h
  exact (isClear_iff hhalf).2 (Glyph.drop_clear hgs fun c hc => ⟨fun heq => hfree c hc (by simp [heq, marks]),
    fun heq => hfree c hc (by simp [heq, marks])⟩)

theorem isClear_take {n : Nat} (h : isClear half check (.ofList cs) = true) (hfree : ∀ c ∈ cs.drop n, c ∉ marks) :
    isClear half check (.ofList (cs.take n)) = true := by
  obtain ⟨gs, hgs, rfl⟩ := (isClear_iff hhalf).1 h
  exact (isClear_iff hhalf).2 (Glyph.take_clear hgs fun c hc => ⟨fun heq => hfree c hc (by simp [heq, marks]),
    fun heq => hfree c hc (by simp [heq, marks])⟩)

theorem isClear_strip {c : Clause} (hplain : ∀ override ∈ c.leadOverrides ++ c.tailOverrides, isPlainOverride override = true)
    (h : isClear half check (.ofList cs) = true) : isClear half check (.ofList (c.strip cs)) = true := by
  have hunmarked {override : String} (hmem : override ∈ c.leadOverrides ++ c.tailOverrides) : ∀ d ∈ override.toList, d ∉ marks := by
    have hall := hplain override hmem
    rw [isPlainOverride, List.all_eq_true] at hall
    exact fun d hd => of_decide_eq_true (hall d hd)
  have hwidth (override : String) : Clause.width override ≤ override.toList.length := (trim_inside _).length_le
  -- An override without marks takes nothing from a placeholder, at either end.
  have hlead {body : List Char} (hbody : isClear half check (.ofList body) = true) :
      isClear half check (.ofList (c.dropLead body)) = true := by
    unfold Clause.dropLead
    split
    · rename_i override hfind
      have hmem := hunmarked (List.mem_append_left _ (List.mem_of_find?_eq_some hfind))
      have hleads : Clause.leads body override = true := List.find?_some hfind
      exact isClear_drop hhalf hbody (unmarked_of_startsLike hleads hmem (hwidth override))
    · exact hbody
  have htail {body : List Char} (hbody : isClear half check (.ofList body) = true) :
      isClear half check (.ofList (c.dropTail body)) = true := by
    unfold Clause.dropTail
    split
    · rename_i override hfind
      have hmem := hunmarked (List.mem_append_right _ (List.mem_of_find?_eq_some hfind))
      have htrails := List.find?_some hfind
      rw [Clause.trails, Bool.or_eq_true] at htrails
      refine isClear_take hhalf hbody ?_
      rcases htrails with hends | hends
      · exact unmarked_of_endsLike hends hmem (hwidth override)
      · exact unmarked_of_endsLike hends (fun d hd => hmem d ((trim_inside _).subset hd)) le_rfl
    · exact hbody
  exact isClear_trim hhalf (htail (hlead (isClear_trim hhalf h)))

end

end SqlTemplate
