import Mathlib.Data.List.Forall2
import SqlTemplate.Proofs.Text.Blank
import SqlTemplate.Text.Ascii
import SqlTemplate.Text.Search

/-! # How texts begin and end

A pattern is compared with the beginning or the end of a text without regard to the case of ASCII letters. Letters that agree so
have the same size, and none of them is a blank. So a position that is counted in bytes along the pattern is one between two
characters of the text, too.
-/

namespace SqlTemplate.Text

variable {c d : Char} {pattern text head tail a b : List Char} {n : Nat}

/-! ## Letters that agree -/

theorem toLower_cases (c : Char) : c.toLower = c ∨ (65 ≤ c.toNat ∧ c.toNat ≤ 90 ∧ c.toLower.toNat = c.toNat + 32) := by
  unfold Char.toLower
  split
  · rename_i h
    rw [ge_iff_le, UInt32.le_iff_toNat_le, UInt32.le_iff_toNat_le] at h
    simp only [UInt32.reduceToNat, Char.reduceVal] at h
    refine .inr ⟨h.1, h.2, ?_⟩
    change (c.val + 32).toNat = c.val.toNat + 32
    rw [UInt32.toNat_add]
    simp only [UInt32.reduceToNat]
    omega
  · exact .inl rfl

theorem utf8Size_toLower (c : Char) : c.toLower.utf8Size = c.utf8Size := by
  have hsize {c : Char} (h : c.toNat ≤ 127) : c.utf8Size = 1 := Char.utf8Size_eq_one_iff.2 (UInt32.le_iff_toNat_le.2 h)
  rcases toLower_cases c with heq | ⟨-, hle, heq⟩
  · rw [heq]
  · rw [hsize (by omega), hsize (by omega)]

theorem isBlank_toLower (c : Char) : isBlank c.toLower = isBlank c := by
  -- No blank is between the first capital letter and the last small one.
  have hletter {c : Char} (h : 65 ≤ c.toNat) (h' : c.toNat ≤ 122) : isBlank c = false := by
    simp only [isBlank, Bool.or_eq_false_iff, Bool.and_eq_false_iff, decide_eq_false_iff_not, beq_eq_false_iff_ne]
    omega
  rcases toLower_cases c with heq | ⟨hle, hle', heq⟩
  · rw [heq]
  · rw [hletter (by omega) (by omega), hletter (by omega) (by omega)]

/-- A character that is no ASCII letter agrees with itself alone. -/
theorem eq_of_sameLetter (h : sameLetter c d = true) (hc : c.toNat < 65 ∨ (90 < c.toNat ∧ c.toNat < 97) ∨ 122 < c.toNat) : d = c := by
  rw [sameLetter, beq_iff_eq] at h
  rcases toLower_cases c with hlower | ⟨hle, hle', -⟩
  · rw [hlower] at h
    rcases toLower_cases d with heq | ⟨hle, hle', heq⟩
    · rw [← heq, h]
    · rw [← h] at heq
      omega
  · omega

theorem isBlank_of_sameLetter (h : sameLetter c d = true) : isBlank c = isBlank d := by
  rw [← isBlank_toLower c, beq_iff_eq.1 h, isBlank_toLower]

/-! ## Texts that agree -/

theorem sameText_iff : sameText a b = true ↔ List.Forall₂ (fun c d => sameLetter c d = true) a b := by
  induction a generalizing b with
  | nil => cases b <;> simp [sameText]
  | cons c a ih => cases b <;> simp [sameText, ih]

theorem mem_of_sameText (h : sameText a b = true) : ∀ d ∈ b, ∃ c ∈ a, sameLetter c d = true := by
  rw [sameText_iff] at h
  induction h with
  | nil => simp
  | cons hsame _ ih =>
    refine List.forall_mem_cons.2 ⟨⟨_, List.mem_cons_self, hsame⟩, fun d hd => ?_⟩
    obtain ⟨c, hc, hcd⟩ := ih d hd
    exact ⟨c, List.mem_cons_of_mem _ hc, hcd⟩

theorem length_sameText (h : sameText a b = true) : a.length = b.length := (sameText_iff.1 h).length_eq

theorem byteSize_append (a b : List Char) : byteSize (a ++ b) = byteSize a + byteSize b := by
  induction a with
  | nil => simp [byteSize]
  | cons c a ih => rw [List.cons_append, byteSize, ih, byteSize, Nat.add_assoc]

theorem byteSize_sameText (h : sameText a b = true) : byteSize a = byteSize b := by
  rw [sameText_iff] at h
  induction h with
  | nil => rfl
  | @cons c d a b hsame _ ih => rw [byteSize, byteSize, ih, ← utf8Size_toLower c, beq_iff_eq.1 hsame, utf8Size_toLower]

theorem sameText_append_left : sameText (a ++ b) text = true ↔
    ∃ head tail, text = head ++ tail ∧ sameText a head = true ∧ sameText b tail = true := by
  constructor
  · intro h
    rw [sameText_iff] at h
    refine ⟨_, _, (List.take_append_drop a.length text).symm, ?_, ?_⟩
    · have htake := List.forall₂_take a.length h
      rwa [List.take_left, ← sameText_iff] at htake
    · have hdrop := List.forall₂_drop a.length h
      rwa [List.drop_left, ← sameText_iff] at hdrop
  · rintro ⟨head, tail, rfl, ha, hb⟩
    exact sameText_iff.2 (List.rel_append (sameText_iff.1 ha) (sameText_iff.1 hb))

theorem isBlank_sameText (h : sameText a b = true) (ha : ∀ c ∈ a, isBlank c = false) : ∀ d ∈ b, isBlank d = false := by
  intro d hd
  obtain ⟨c, hc, hsame⟩ := mem_of_sameText h d hd
  rw [← isBlank_of_sameLetter hsame, ha c hc]

theorem isBlank_head_sameText (h : sameText a b = true) (hb : ∀ c ∈ b.head?, isBlank c = false) :
    ∀ c ∈ a.head?, isBlank c = false := by
  cases sameText_iff.1 h with
  | nil => exact hb
  | cons hsame _ => simpa [isBlank_of_sameLetter hsame] using hb

theorem isBlank_last_sameText (h : sameText a b = true) (hb : ∀ c ∈ b.getLast?, isBlank c = false) :
    ∀ c ∈ a.getLast?, isBlank c = false := by
  have hreverse : sameText a.reverse b.reverse = true := by
    rwa [sameText_iff, List.forall₂_reverse_iff, ← sameText_iff]
  simpa [List.head?_reverse] using isBlank_head_sameText hreverse (by simpa [List.head?_reverse] using hb)

/-- The text begins with the pattern up to the case of ASCII letters. -/
def Begins (pattern text : List Char) : Prop := ∃ head tail, text = head ++ tail ∧ sameText pattern head = true

/-- The text ends with the pattern up to the case of ASCII letters. -/
def Ends (pattern text : List Char) : Prop := ∃ head tail, text = head ++ tail ∧ sameText pattern tail = true

theorem startsLike_iff : startsLike pattern text = true ↔ Begins pattern text := by
  unfold startsLike
  constructor
  · exact fun h => ⟨_, _, (List.take_append_drop _ _).symm, h⟩
  · rintro ⟨head, tail, rfl, h⟩
    rwa [length_sameText h, List.take_left]

theorem endsLike_iff : endsLike pattern text = true ↔ pattern ≠ [] ∧ Ends pattern text := by
  rw [endsLike, Bool.and_eq_true, startsLike_iff, Bool.not_eq_true', List.isEmpty_eq_false_iff]
  refine and_congr_right fun _ => ?_
  constructor
  · rintro ⟨head, tail, hreverse, h⟩
    refine ⟨tail.reverse, head.reverse, ?_, ?_⟩
    · rw [← List.reverse_append, ← hreverse, List.reverse_reverse]
    · rwa [sameText_iff, ← List.forall₂_reverse_iff, List.reverse_reverse, ← sameText_iff]
  · rintro ⟨head, tail, rfl, h⟩
    refine ⟨tail.reverse, head.reverse, List.reverse_append, ?_⟩
    rwa [sameText_iff, List.forall₂_reverse_iff, ← sameText_iff]

/-- A text that begins without blanks begins with no pattern that does, and with the pattern also without the blanks after it. -/
theorem Begins.trim (h : Begins pattern text) (hne : pattern ≠ []) (htext : ∀ c ∈ text.head?, isBlank c = false) :
    trim pattern ≠ [] ∧ Begins (trim pattern) text := by
  obtain ⟨head, tail, rfl, hsame⟩ := h
  have hpattern := isBlank_head_sameText hsame fun c hc => htext c (by simp [Option.mem_def.1 hc])
  obtain ⟨before, after, hbefore, -, heq⟩ := eq_trim pattern
  have hnil : before = [] := by
    cases before with
    | nil => rfl
    | cons c before => simpa [hbefore c List.mem_cons_self] using hpattern c (by rw [heq]; rfl)
  refine ⟨fun hblank => ?_, ?_⟩
  · obtain ⟨c, hc⟩ := Option.ne_none_iff_exists'.1 (mt List.head?_eq_none_iff.1 hne)
    simpa [trim_eq_nil.1 hblank c (List.mem_of_mem_head? hc)] using hpattern c hc
  · rw [heq, hnil, List.nil_append] at hsame
    obtain ⟨p, rest, rfl, hp, -⟩ := sameText_append_left.1 hsame
    exact ⟨p, rest ++ tail, List.append_assoc .., hp⟩

theorem Ends.trim (h : Ends pattern text) (hne : pattern ≠ []) (htext : ∀ c ∈ text.getLast?, isBlank c = false) :
    trim pattern ≠ [] ∧ Ends (trim pattern) text := by
  obtain ⟨head, tail, rfl, hsame⟩ := h
  have hpattern := isBlank_last_sameText hsame fun c hc => htext c (by simp [List.getLast?_append, Option.mem_def.1 hc])
  obtain ⟨before, after, -, hafter, heq⟩ := eq_trim pattern
  have hnil : after = [] := by
    rcases List.eq_nil_or_concat after with rfl | ⟨after', c, rfl⟩
    · rfl
    · simpa [hafter c (by simp)] using hpattern c (by rw [heq]; simp)
  refine ⟨fun hblank => ?_, ?_⟩
  · obtain ⟨c, hc⟩ := Option.ne_none_iff_exists'.1 (mt List.getLast?_eq_none_iff.1 hne)
    simpa [trim_eq_nil.1 hblank c (List.mem_of_getLast? hc)] using hpattern c hc
  · rw [heq, hnil, List.append_nil] at hsame
    obtain ⟨rest, s, rfl, -, hs⟩ := sameText_append_left.1 hsame
    exact ⟨head ++ rest, s, (List.append_assoc ..).symm, hs⟩

/-! ## Positions in bytes -/

/-- The text before and after a position that is counted in bytes. There is none inside a character or beyond the end. -/
def cutAt? : Nat → List Char → Option (List Char × List Char)
  | 0, text => some ([], text)
  | _ + 1, [] => none
  | n + 1, c :: text =>
    if c.utf8Size ≤ n + 1 then (cutAt? (n + 1 - c.utf8Size) text).map fun (head, tail) => (c :: head, tail) else none

theorem cutAt?_append (head tail : List Char) : cutAt? (byteSize head) (head ++ tail) = some (head, tail) := by
  induction head with
  | nil => cases tail <;> rfl
  | cons c head ih =>
    obtain ⟨n, hn⟩ : ∃ n, c.utf8Size + byteSize head = n + 1 := ⟨_, (Nat.succ_pred (by have := c.utf8Size_pos; omega)).symm⟩
    rw [byteSize, hn, List.cons_append, cutAt?, if_pos (by omega), ← hn, Nat.add_sub_cancel_left, ih]
    rfl

theorem eq_append_of_cutAt? (h : cutAt? n text = some (head, tail)) : text = head ++ tail ∧ byteSize head = n := by
  induction text generalizing n head with
  | nil =>
    cases n with
    | zero =>
      cases h
      exact ⟨rfl, rfl⟩
    | succ n => cases h
  | cons c text ih =>
    cases n with
    | zero =>
      cases h
      exact ⟨rfl, rfl⟩
    | succ n =>
      rw [cutAt?] at h
      split at h
      · obtain ⟨⟨head', tail'⟩, hcut, heq⟩ := Option.map_eq_some_iff.1 h
        cases heq
        obtain ⟨rfl, hsize⟩ := ih hcut
        exact ⟨rfl, by rw [byteSize]; omega⟩
      · cases h

/-- The pattern is looked for in the bytes at the beginning that are as many as its own. -/
def startsAt (pattern text : List Char) : Bool :=
  match cutAt? (byteSize pattern) text with
  | some (head, _) => sameText pattern head
  | none => false

/-- The pattern is looked for in the bytes at the end that are as many as its own. -/
def endsAt (pattern text : List Char) : Bool :=
  !pattern.isEmpty && decide (byteSize pattern ≤ byteSize text) &&
    match cutAt? (byteSize text - byteSize pattern) text with
    | some (_, tail) => sameText pattern tail
    | none => false

theorem startsAt_iff : startsAt pattern text = true ↔ Begins pattern text := by
  unfold startsAt
  constructor
  · intro h
    split at h
    · rename_i head tail hcut
      exact ⟨head, tail, (eq_append_of_cutAt? hcut).1, h⟩
    · cases h
  · rintro ⟨head, tail, rfl, h⟩
    rwa [byteSize_sameText h, cutAt?_append]

theorem endsAt_iff : endsAt pattern text = true ↔ pattern ≠ [] ∧ Ends pattern text := by
  unfold endsAt
  rw [Bool.and_eq_true, Bool.and_eq_true, Bool.not_eq_true', List.isEmpty_eq_false_iff, decide_eq_true_iff, and_assoc]
  refine and_congr_right fun _ => ?_
  constructor
  · rintro ⟨-, h⟩
    split at h
    · rename_i head tail hcut
      exact ⟨head, tail, (eq_append_of_cutAt? hcut).1, h⟩
    · cases h
  · rintro ⟨head, tail, rfl, h⟩
    rw [byteSize_append, byteSize_sameText h, Nat.add_sub_cancel, cutAt?_append]
    exact ⟨Nat.le_add_left _ _, h⟩

end SqlTemplate.Text
