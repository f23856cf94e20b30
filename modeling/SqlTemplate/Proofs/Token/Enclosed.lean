import Mathlib.Data.List.Basic
import SqlTemplate.Proofs.Text.Search
import SqlTemplate.Token

/-! # What stands between delimiters

The content of a placeholder as it stands in a text, with its escapes. It ends at the first closing delimiter without a
backslash before it.
-/

namespace SqlTemplate

theorem unescape?_concat (cs : List Char) : unescape? (cs ++ ['\\']) = some cs := by
  rw [unescape?, List.getLast?_concat, if_pos rfl, List.dropLast_concat]

theorem eq_concat_of_unescape? {cs b : List Char} (h : unescape? cs = some b) : cs = b ++ ['\\'] := by
  unfold unescape? at h
  split at h
  · rename_i hlast
    cases h
    exact (List.dropLast_append_getLast? _ (Option.mem_def.2 hlast)).symm
  · cases h

/-! ## Escapes inside a token -/

/-- The content that is meant, without its escapes. -/
def unescape : List Char → List Char
  | '\\' :: '}' :: cs => '}' :: unescape cs
  | c :: cs => c :: unescape cs
  | [] => []

/-- The text can stand between delimiters: every closing one in it is escaped, and it does not escape the one after it. -/
def encloses : List Char → Bool
  | [] => true
  | '\\' :: '}' :: cs => encloses cs
  | '}' :: _ => false
  | ['\\'] => false
  | _ :: cs => encloses cs

theorem unescape_cons {c : Char} {cs : List Char} (h : c = '\\' → cs.head? ≠ some '}') :
    unescape (c :: cs) = c :: unescape cs := by
  rw [unescape]
  rintro rest rfl rfl
  simp at h

theorem encloses_cons {c : Char} {cs : List Char} (hc : c ≠ '}') (h : c = '\\' → cs ≠ [] ∧ cs.head? ≠ some '}') :
    encloses (c :: cs) = encloses cs := by
  rw [encloses]
  · rintro rest rfl rfl
    simp at h
  · exact hc
  · rintro rfl rfl
    simp at h

theorem head?_append_ne {x : Char} {a r : List Char} (h : x ∉ a) (hr : r.head? ≠ some x) : (a ++ r).head? ≠ some x := by
  cases a with
  | nil => exact hr
  | cons c a =>
    rw [List.mem_cons, not_or] at h
    simpa using Ne.symm h.1

theorem unescape_append {a : List Char} (h : '\\' ∉ a) (cs : List Char) : unescape (a ++ cs) = a ++ unescape cs := by
  induction a with
  | nil => rfl
  | cons c a ih =>
    rw [List.mem_cons, not_or] at h
    rw [List.cons_append, unescape_cons fun hc => absurd hc.symm h.1, ih h.2, List.cons_append]

theorem encloses_append {a : List Char} (h : '\\' ∉ a) (h' : '}' ∉ a) (cs : List Char) : encloses (a ++ cs) = encloses cs := by
  induction a with
  | nil => rfl
  | cons c a ih =>
    rw [List.mem_cons, not_or] at h h'
    rw [List.cons_append, encloses_cons (Ne.symm h'.1) fun hc => absurd hc.symm h.1, ih h.2 h'.2]

theorem unescape_escape {a : List Char} (h : '}' ∉ a) (cs : List Char) :
    unescape (a ++ '\\' :: '}' :: cs) = a ++ '}' :: unescape cs := by
  induction a with
  | nil => rfl
  | cons c a ih =>
    rw [List.mem_cons, not_or] at h
    rw [List.cons_append, unescape_cons fun _ => head?_append_ne h.2 (by simp), ih h.2, List.cons_append]

theorem encloses_escape {a : List Char} (h : '}' ∉ a) (cs : List Char) : encloses (a ++ '\\' :: '}' :: cs) = encloses cs := by
  induction a with
  | nil => rfl
  | cons c a ih =>
    rw [List.mem_cons, not_or] at h
    rw [List.cons_append, encloses_cons (Ne.symm h.1) fun _ => ⟨by simp, head?_append_ne h.2 (by simp)⟩, ih h.2]

theorem unescape_plain {a : List Char} (h : '}' ∉ a) : unescape a = a := by
  induction a with
  | nil => rfl
  | cons c a ih =>
    rw [List.mem_cons, not_or] at h
    have hhead : (a ++ []).head? ≠ some '}' := head?_append_ne h.2 (by simp)
    rw [List.append_nil] at hhead
    rw [unescape_cons fun _ => hhead, ih h.2]

theorem encloses_plain {a : List Char} (h : '}' ∉ a) : encloses a = true ↔ unescape? a = none := by
  induction a with
  | nil => exact iff_of_true rfl rfl
  | cons c a ih =>
    rw [List.mem_cons, not_or] at h
    cases a with
    | nil =>
      by_cases hc : c = '\\'
      · subst hc
        simp [encloses, unescape?]
      · rw [encloses_cons (Ne.symm h.1) fun heq => absurd heq hc]
        exact iff_of_true rfl (if_neg (by simpa using hc))
    | cons d a =>
      have hd : d ≠ '}' := fun hd => h.2 (by simp [hd])
      rw [encloses_cons (Ne.symm h.1) fun _ => ⟨by simp, by simpa using hd⟩, ih h.2]
      simp [unescape?]

theorem escaped_of_encloses {a r : List Char} (h : '}' ∉ a) (he : encloses (a ++ '}' :: r) = true) :
    ∃ b, a = b ++ ['\\'] ∧ encloses r = true := by
  induction a with
  | nil => cases he
  | cons c a ih =>
    rw [List.mem_cons, not_or] at h
    by_cases hesc : c = '\\' ∧ a = []
    · obtain ⟨rfl, rfl⟩ := hesc
      exact ⟨[], rfl, he⟩
    · rw [List.cons_append, encloses_cons (Ne.symm h.1)] at he
      · obtain ⟨b, rfl, hr⟩ := ih h.2 he
        exact ⟨c :: b, rfl, hr⟩
      · intro hc
        cases a with
        | nil => exact absurd ⟨hc, rfl⟩ hesc
        | cons d a => exact ⟨by simp, fun hd => h.2 (by simp_all)⟩

/-- What is put behind a part of the text changes nothing, unless it parts an escape. -/
theorem encloses_insert {a m rest : List Char} (hslash : '\\' ∉ m) (hclosing : '}' ∉ m) (hrest : rest.head? ≠ some '}')
    (h : encloses (a ++ rest) = true) : encloses (a ++ (m ++ rest)) = true := by
  have hmhead : (m ++ rest).head? ≠ some '}' := head?_append_ne hclosing hrest
  fun_induction encloses a with
  | case1 => rwa [List.nil_append, encloses_append hslash hclosing]
  | case2 a ih => exact ih h
  | case3 a => cases h
  | case4 =>
    rw [List.singleton_append] at h ⊢
    cases rest with
    | nil => cases h
    | cons d rest =>
      rw [encloses_cons (by decide) fun _ => ⟨by simp, hrest⟩] at h
      rw [encloses_cons (by decide) fun _ => ⟨by simp, hmhead⟩, encloses_append hslash hclosing]
      exact h
  | case5 c a hescape hclosing' hlast ih =>
    -- A backslash here escapes nothing, as what follows it is still in the first part.
    have hpart (t : List Char) : c = '\\' → a ++ t ≠ [] ∧ (a ++ t).head? ≠ some '}' := by
      intro hc
      cases a with
      | nil => exact (hlast hc rfl).elim
      | cons d a =>
        refine ⟨by simp, fun hhead => ?_⟩
        cases hhead
        exact hescape a hc rfl
    rw [List.cons_append, encloses_cons hclosing' (hpart _)] at h ⊢
    exact ih h

/-- The text can stand between delimiters as it is: every closing one in it comes after a backslash, and no backslash comes last. -/
structure Enclosable (cs : List Char) : Prop where
  escaped : ∀ before after, cs = before ++ '}' :: after → before.getLast? = some '\\'
  ending : cs.getLast? ≠ some '\\'

theorem getLast?_cons_iff {c x : Char} {cs : List Char} : (c :: cs).getLast? = some x ↔ cs.getLast? = some x ∨ cs = [] ∧ c = x := by
  cases cs with
  | nil => simp
  | cons d cs => simp [List.getLast?_cons_cons]

theorem enclosable_cons {c : Char} {cs : List Char} (hc : c ≠ '}') (h : c = '\\' → cs ≠ [] ∧ cs.head? ≠ some '}') :
    Enclosable (c :: cs) ↔ Enclosable cs := by
  constructor
  · rintro ⟨hescaped, hending⟩
    refine ⟨fun before after heq => ?_, fun hlast => hending (getLast?_cons_iff.2 (.inl hlast))⟩
    rcases getLast?_cons_iff.1 (hescaped (c :: before) after (by rw [heq, List.cons_append])) with hlast | ⟨rfl, hslash⟩
    · exact hlast
    · exact absurd (by rw [heq]; rfl) (h hslash).2
  · rintro ⟨hescaped, hending⟩
    refine ⟨fun before after heq => ?_, fun hlast => ?_⟩
    · cases before with
      | nil => exact absurd (List.cons.inj heq).1 hc
      | cons d before => exact getLast?_cons_iff.2 (.inl (hescaped before after (List.cons.inj heq).2))
    · rcases getLast?_cons_iff.1 hlast with hlast | ⟨hnil, hslash⟩
      · exact hending hlast
      · exact (h hslash).1 hnil

theorem enclosable_escape (cs : List Char) : Enclosable ('\\' :: '}' :: cs) ↔ Enclosable cs := by
  constructor
  · rintro ⟨hescaped, hending⟩
    refine ⟨fun before after heq => ?_, fun hlast => hending (by simp [getLast?_cons_iff, hlast])⟩
    have hbefore := hescaped ('\\' :: '}' :: before) after (by rw [heq]; rfl)
    simpa [getLast?_cons_iff] using hbefore
  · rintro ⟨hescaped, hending⟩
    refine ⟨fun before after heq => ?_, by simp [getLast?_cons_iff, hending]⟩
    -- The closing delimiter is the escaped one or stands further on.
    match before with
    | [] => cases heq
    | [_] =>
      cases heq
      rfl
    | _ :: _ :: before =>
      cases heq
      simp [getLast?_cons_iff, hescaped before after rfl]

theorem encloses_iff {cs : List Char} : encloses cs = true ↔ Enclosable cs := by
  fun_induction encloses cs with
  | case1 => exact iff_of_true rfl ⟨by simp, by simp⟩
  | case2 cs ih => exact ih.trans (enclosable_escape cs).symm
  | case3 cs => exact iff_of_false (by simp) fun h => by simpa using h.escaped [] cs rfl
  | case4 => exact iff_of_false (by simp) fun h => h.ending rfl
  | case5 c cs hescape hclosing hlast ih =>
    refine ih.trans (enclosable_cons hclosing fun hc => ⟨hlast hc, fun hhead => ?_⟩).symm
    obtain ⟨rest, rfl⟩ := List.head?_eq_some_iff.1 hhead
    exact hescape rest hc rfl

instance : DecidablePred Enclosable := fun _ => decidable_of_iff _ encloses_iff

namespace Delimiters

/-- The content of a token as it stands. -/
def rawOf (parts : List (List Char)) : List Char := ['\\', '}'].intercalate parts

/-- The content of a token without its escapes. -/
def plainOf (parts : List (List Char)) : List Char := ['}'].intercalate parts

theorem takeToken?_eq (closing cs : List Char) :
    takeToken? closing cs = match Text.breakOn closing cs with
      | none => none
      | some (segment, after) =>
        match unescape? segment with
        | none => some ([segment], after)
        | some part => (takeToken? closing after).map fun (parts, rest) => (part :: parts, rest) := by
  rw [takeToken?]
  split
  · simp_all
  · split <;> simp_all

/-- No character of a token is lost. -/
theorem takeToken?_source {closing cs rest : List Char} {parts : List (List Char)}
    (h : takeToken? closing cs = some (parts, rest)) :
    parts ≠ [] ∧ cs = ('\\' :: closing).intercalate parts ++ closing ++ rest := by
  induction cs using takeToken?.induct closing generalizing parts with
  | case1 cs hbreak =>
    rw [takeToken?_eq, hbreak] at h
    cases h
  | case2 cs segment after hbreak hplain =>
    rw [takeToken?_eq, hbreak] at h
    simp only [hplain, Option.some.injEq, Prod.mk.injEq] at h
    obtain ⟨rfl, rfl⟩ := h
    exact ⟨by simp, by simpa using Text.eq_append_of_breakOn hbreak⟩
  | case3 cs segment after hbreak part hescaped ih =>
    rw [takeToken?_eq, hbreak] at h
    simp only [hescaped] at h
    obtain ⟨⟨parts', rest'⟩, htake, heq⟩ := Option.map_eq_some_iff.1 h
    cases heq
    obtain ⟨hne, hafter⟩ := ih htake
    refine ⟨by simp, ?_⟩
    rw [List.intercalate_cons_of_ne_nil hne, Text.eq_append_of_breakOn hbreak, eq_concat_of_unescape? hescaped, hafter]
    simp

theorem rawOf_cons {part : List Char} {parts : List (List Char)} (h : parts ≠ []) :
    rawOf (part :: parts) = part ++ '\\' :: '}' :: rawOf parts := by
  cases parts with
  | nil => exact absurd rfl h
  | cons p ps => rfl

theorem plainOf_cons {part : List Char} {parts : List (List Char)} (h : parts ≠ []) :
    plainOf (part :: parts) = part ++ '}' :: plainOf parts := by
  cases parts with
  | nil => exact absurd rfl h
  | cons p ps => rfl

theorem takeToken?_some {cs rest : List Char} {parts : List (List Char)} (h : takeToken? ['}'] cs = some (parts, rest)) :
    parts ≠ [] ∧ cs = rawOf parts ++ '}' :: rest ∧ encloses (rawOf parts) = true ∧ unescape (rawOf parts) = plainOf parts := by
  obtain ⟨hne, hcs⟩ := takeToken?_source h
  refine ⟨hne, by simpa [rawOf] using hcs, ?_⟩
  clear hne hcs
  induction cs using takeToken?.induct ['}'] generalizing parts with
  | case1 cs hbreak =>
    rw [takeToken?_eq, hbreak] at h
    cases h
  | case2 cs segment after hbreak hplain =>
    rw [takeToken?_eq, hbreak] at h
    simp only [hplain, Option.some.injEq, Prod.mk.injEq] at h
    obtain ⟨rfl, rfl⟩ := h
    have hfree := Text.notMem_of_breakOn hbreak
    have hraw : rawOf [segment] = segment := by simp [rawOf, List.intercalate]
    have hmeant : plainOf [segment] = segment := by simp [plainOf, List.intercalate]
    rw [hraw, hmeant]
    exact ⟨(encloses_plain hfree).2 hplain, unescape_plain hfree⟩
  | case3 cs segment after hbreak part hescaped ih =>
    rw [takeToken?_eq, hbreak] at h
    simp only [hescaped] at h
    obtain ⟨⟨parts', rest'⟩, htake, heq⟩ := Option.map_eq_some_iff.1 h
    cases heq
    obtain rfl := eq_concat_of_unescape? hescaped
    have hpart : '}' ∉ part := fun hmem => Text.notMem_of_breakOn hbreak (List.mem_append_left _ hmem)
    have hne := (takeToken?_source htake).1
    obtain ⟨henclosed, hmeant⟩ := ih htake
    rw [rawOf_cons hne, plainOf_cons hne, encloses_escape hpart, unescape_escape hpart, hmeant]
    exact ⟨henclosed, rfl⟩

theorem takeToken?_enclosed {raw : List Char} (h : encloses raw = true) (rest : List Char) :
    ∃ parts, takeToken? ['}'] (raw ++ '}' :: rest) = some (parts, rest) ∧ parts ≠ [] ∧ rawOf parts = raw := by
  induction hn : raw.length using Nat.strongRecOn generalizing raw with
  | _ n ih =>
    by_cases hfree : '}' ∈ raw
    · obtain ⟨a, r, rfl, ha⟩ := List.eq_append_cons_of_mem hfree
      obtain ⟨b, rfl, hr⟩ := escaped_of_encloses ha h
      have hlen : r.length < n := by
        rw [← hn]
        simp
        omega
      obtain ⟨parts, htake, hne, hraw⟩ := ih _ hlen hr rfl
      refine ⟨b :: parts, ?_, by simp, by rw [rawOf_cons hne, hraw]; simp⟩
      rw [takeToken?_eq, List.append_assoc, List.cons_append, Text.breakOn_append ha]
      simp only [unescape?_concat, htake, Option.map_some]
    · refine ⟨[raw], ?_, by simp, by simp [rawOf, List.intercalate]⟩
      rw [takeToken?_eq, Text.breakOn_append hfree]
      simp only [(encloses_plain hfree).1 h]

end Delimiters

/-- No closing delimiter in the text ends what stands before it. -/
def Unended (cs : List Char) : Prop := ∀ raw rest, cs = raw ++ '}' :: rest → encloses raw = false

theorem Delimiters.takeToken?_none {cs : List Char} (h : takeToken? ['}'] cs = none) : Unended cs := by
  rintro raw rest rfl
  by_contra henclosed
  obtain ⟨parts, htake, -⟩ := takeToken?_enclosed (Bool.of_not_eq_false henclosed) rest
  rw [h] at htake
  cases htake

theorem Unended.takeToken? {cs : List Char} (h : Unended cs) : Delimiters.takeToken? ['}'] cs = none := by
  cases htake : Delimiters.takeToken? ['}'] cs with
  | none => rfl
  | some found =>
    obtain ⟨-, hcs, henclosed, -⟩ := Delimiters.takeToken?_some htake
    rw [h _ _ hcs] at henclosed
    cases henclosed

end SqlTemplate
