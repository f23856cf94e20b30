import SqlTemplate.Proofs.Number.Plain
import SqlTemplate.Proofs.Number.Shortest
import SqlTemplate.Proofs.Text.Edge

/-! # Decimal numerals

A numeral has digits, with digits on both sides of the point where there is one, and perhaps a sign and an exponent. Integers and finite
numbers are written so. The reader of floating-point numbers takes more: a point with digits on one side only, and words for infinity
and for what is no number.
-/

namespace SqlTemplate.Number

open Float.Model (UnpackedFloat)

/-- No sign, or one. -/
inductive IsSign : List Char → Prop
  | none : IsSign []
  | plus : IsSign ['+']
  | minus : IsSign ['-']

/-- Digits, perhaps with a fraction. -/
inductive IsFixed : List Char → Prop
  | whole {digits : List Char} (hdigits : isDigits digits) : IsFixed digits
  | fraction {whole fraction : List Char} (hwhole : isDigits whole) (hfraction : isDigits fraction) :
    IsFixed (whole ++ '.' :: fraction)

/-- No exponent, or one. -/
inductive IsExponent : List Char → Prop
  | none : IsExponent []
  | marked {mark : Char} {sign digits : List Char} (hmark : mark = 'e' ∨ mark = 'E') (hsign : IsSign sign) (hdigits : isDigits digits) :
    IsExponent (mark :: (sign ++ digits))

def IsNumeral (cs : List Char) : Prop :=
  ∃ sign fixed exponent, IsSign sign ∧ IsFixed fixed ∧ IsExponent exponent ∧ cs = sign ++ fixed ++ exponent

/-- A word for a value that has no digits, in any letter case and perhaps with a sign. -/
def IsWord (cs : List Char) : Prop :=
  ∃ sign word, IsSign sign ∧ String.ofList (word.map Char.toLower) ∈ ["inf", "infinity", "nan"] ∧ cs = sign ++ word

/-- A point without a digit before or after it. -/
def HasBarePoint (cs : List Char) : Prop :=
  ∃ before after, cs = before ++ '.' :: after ∧ ((∀ c ∈ before.getLast?, c.isDigit = false) ∨ ∀ c ∈ after.head?, c.isDigit = false)

/-- What the reader of numbers takes beyond numerals. -/
def IsLoose (cs : List Char) : Prop := IsWord cs ∨ HasBarePoint cs

variable {cs : List Char} {c : Char}

theorem isDigits_iff : isDigits cs = true ↔ cs ≠ [] ∧ ∀ c ∈ cs, c.isDigit = true := by
  simp [isDigits]

/-! ## What a numeral does not have -/

theorem IsSign.mem (h : IsSign cs) (hc : c ∈ cs) : c = '+' ∨ c = '-' := by
  cases h <;> simp_all

theorem IsFixed.mem (h : IsFixed cs) (hc : c ∈ cs) : c = '.' ∨ c.isDigit = true := by
  cases h with
  | whole hdigits => exact .inr ((isDigits_iff.1 hdigits).2 c hc)
  | fraction hwhole hfraction =>
    rcases List.mem_append.1 hc with hc | hc
    · exact .inr ((isDigits_iff.1 hwhole).2 c hc)
    · exact (List.mem_cons.1 hc).imp_right ((isDigits_iff.1 hfraction).2 c)

theorem IsExponent.mem (h : IsExponent cs) (hc : c ∈ cs) : c ∈ ['e', 'E', '+', '-'] ∨ c.isDigit = true := by
  cases h with
  | none => cases hc
  | marked hmark hsign hdigits =>
    rcases List.mem_cons.1 hc with rfl | hc
    · rcases hmark with rfl | rfl <;> simp
    · rcases List.mem_append.1 hc with hc | hc
      · rcases hsign.mem hc with rfl | rfl <;> simp
      · exact .inr ((isDigits_iff.1 hdigits).2 c hc)

theorem IsNumeral.mem (h : IsNumeral cs) (hc : c ∈ cs) : c ∈ ['.', 'e', 'E', '+', '-'] ∨ c.isDigit = true := by
  obtain ⟨sign, fixed, exponent, hsign, hfixed, hexponent, rfl⟩ := h
  rcases List.mem_append.1 hc with hc | hc
  · rcases List.mem_append.1 hc with hc | hc
    · rcases hsign.mem hc with rfl | rfl <;> simp
    · exact (hfixed.mem hc).imp_left (by rintro rfl; simp)
  · exact (hexponent.mem hc).imp_left (List.mem_cons_of_mem _)

theorem eq_of_toLower_n (h : c.toLower = 'n') : c = 'n' ∨ c = 'N' := by
  rcases Text.toLower_cases c with heq | ⟨-, -, hcode⟩
  · exact .inl (heq ▸ h)
  · refine .inr (Char.toNat_inj.1 ?_)
    rw [h] at hcode
    exact Nat.add_right_cancel hcode.symm

/-- All the words have an `n`. -/
theorem IsWord.letter (h : IsWord cs) : 'n' ∈ cs ∨ 'N' ∈ cs := by
  obtain ⟨sign, word, -, hword, rfl⟩ := h
  have hletter : 'n' ∈ word.map Char.toLower := by
    rw [← String.toList_ofList (l := word.map Char.toLower)]
    revert hword
    generalize String.ofList (word.map Char.toLower) = text
    simp only [List.mem_cons, List.not_mem_nil, or_false]
    rintro (rfl | rfl | rfl) <;> decide
  obtain ⟨c, hc, hlower⟩ := List.mem_map.1 hletter
  rcases eq_of_toLower_n hlower with rfl | rfl
  · exact .inl (List.mem_append_right _ hc)
  · exact .inr (List.mem_append_right _ hc)

theorem IsNumeral.not_isWord (h : IsNumeral cs) : ¬ IsWord cs := by
  have hnot {letter : Char} (hdigit : letter.isDigit = false) (hmark : letter ∉ ['.', 'e', 'E', '+', '-']) : letter ∉ cs := by
    intro hmem
    rcases h.mem hmem with hmem | hmem
    · exact hmark hmem
    · rw [hdigit] at hmem
      cases hmem
  exact fun hword => hword.letter.elim (hnot rfl (by decide)) (hnot rfl (by decide))

theorem IsNumeral.not_hasBarePoint (h : IsNumeral cs) : ¬ HasBarePoint cs := by
  rintro ⟨before, after, hpoint, hbare⟩
  obtain ⟨sign, fixed, exponent, hsign, hfixed, hexponent, rfl⟩ := h
  have hdigits {ds : List Char} (h : isDigits ds) : '.' ∉ ds := fun hmem => by cases (isDigits_iff.1 h).2 _ hmem
  have hnotSign : '.' ∉ sign := fun hmem => by cases hsign.mem hmem <;> contradiction
  have hnotExponent : '.' ∉ exponent := fun hmem => by cases hexponent.mem hmem <;> simp_all
  cases hfixed with
  | whole hwhole =>
    have hmem : '.' ∈ sign ++ fixed ++ exponent := by simp [hpoint]
    simp only [List.mem_append] at hmem
    rcases hmem with (hmem | hmem) | hmem
    · exact hnotSign hmem
    · exact hdigits hwhole hmem
    · exact hnotExponent hmem
  | @fraction whole fraction hwhole hfraction =>
    have hsplit : (sign ++ whole) ++ '.' :: (fraction ++ exponent) = before ++ '.' :: after := by simpa using hpoint
    have hbefore : '.' ∉ sign ++ whole := by simp [hnotSign, hdigits hwhole]
    have hafter : '.' ∉ fraction ++ exponent := by simp [hnotExponent, hdigits hfraction]
    obtain ⟨rfl, -, rfl⟩ := (List.append_cons_inj_of_notMem hbefore hafter).1 hsplit
    obtain ⟨hwholeNe, hwhole⟩ := isDigits_iff.1 hwhole
    obtain ⟨hfractionNe, hfraction⟩ := isDigits_iff.1 hfraction
    rcases hbare with hlast | hhead
    · rw [List.getLast?_append_of_ne_nil _ hwholeNe] at hlast
      have hdigit := hwhole _ (List.getLast_mem hwholeNe)
      rw [hlast _ (List.getLast?_eq_some_getLast hwholeNe)] at hdigit
      cases hdigit
    · rw [List.head?_append_of_ne_nil _ hfractionNe] at hhead
      have hdigit := hfraction _ (List.head_mem hfractionNe)
      rw [hhead _ (List.head?_eq_some_head hfractionNe)] at hdigit
      cases hdigit

/-! ## What the reader takes -/

theorem takeSign_split (cs : List Char) : ∃ sign negative body, IsSign sign ∧ takeSign cs = (negative, body) ∧ cs = sign ++ body := by
  unfold takeSign
  split
  · exact ⟨_, _, _, .minus, rfl, rfl⟩
  · exact ⟨_, _, _, .plus, rfl, rfl⟩
  · exact ⟨_, _, _, .none, rfl, rfl⟩

theorem isDigits_of_readDigits? (h : (readDigits? cs).isSome = true) : isDigits cs = true := by
  unfold readDigits? at h
  split at h
  · assumption
  · cases h

theorem readInt?_split (h : (readInt? cs).isSome = true) : ∃ sign digits, IsSign sign ∧ isDigits digits ∧ cs = sign ++ digits := by
  unfold readInt? at h
  split at h
  · rename_i digits
    refine ⟨_, digits, .minus, isDigits_of_readDigits? ?_, rfl⟩
    cases hread : readDigits? digits with
    | none => simp [hread] at h
    | some n => rfl
  · rw [Option.isSome_map] at h
    unfold readNat? at h
    split at h
    · exact ⟨_, _, .plus, isDigits_of_readDigits? h, rfl⟩
    · exact ⟨_, _, .none, isDigits_of_readDigits? h, rfl⟩

theorem isExponent_of_read (h : (readExponent? cs).isSome = true) : IsExponent cs := by
  unfold readExponent? at h
  split at h
  · exact .none
  · split at h
    · rename_i hmark
      obtain ⟨sign, digits, hsign, hdigits, rfl⟩ := readInt?_split h
      exact .marked hmark hsign hdigits
    · cases h

/-- What is read as digits is a numeral unless its point has digits on one side only. -/
theorem isNumeral_of_readNumeral? (h : (readNumeral? cs).isSome = true) (hbare : ¬ HasBarePoint cs) : IsNumeral cs := by
  obtain ⟨sign, negative, body, hsign, htake, rfl⟩ := takeSign_split cs
  rw [readNumeral?, htake] at h
  dsimp only at h
  have hbody : body.takeWhile Char.isDigit ++ body.dropWhile Char.isDigit = body := List.takeWhile_append_dropWhile
  have hwhole : ∀ c ∈ body.takeWhile Char.isDigit, c.isDigit = true := fun _ => List.mem_takeWhile_imp
  generalize body.takeWhile Char.isDigit = whole at h hbody hwhole
  generalize body.dropWhile Char.isDigit = rest at h hbody
  subst hbody
  split at h
  · rename_i after
    -- Without a digit before the point or after it the point would be bare.
    have hlast : whole ≠ [] := by
      rintro rfl
      refine hbare ⟨sign, after, rfl, .inl fun c hc => ?_⟩
      rcases hsign.mem (List.mem_of_getLast? hc) with rfl | rfl <;> rfl
    have hhead : after.takeWhile Char.isDigit ≠ [] := by
      intro hnil
      refine hbare ⟨sign ++ whole, after, by simp, .inr fun c hc => ?_⟩
      obtain ⟨tail, rfl⟩ := List.head?_eq_some_iff.1 hc
      simpa [List.takeWhile_cons] using hnil
    have hfraction : isDigits (after.takeWhile Char.isDigit) = true := isDigits_iff.2 ⟨hhead, fun _ => List.mem_takeWhile_imp⟩
    have hexponent : (readExponent? (after.dropWhile Char.isDigit)).isSome = true := by simpa [hlast] using h
    refine ⟨sign, _, _, hsign, .fraction (isDigits_iff.2 ⟨hlast, hwhole⟩) hfraction, isExponent_of_read hexponent, ?_⟩
    simp [List.takeWhile_append_dropWhile]
  · have hsome : whole ≠ [] ∧ (readExponent? rest).isSome = true := by
      split at h
      · cases h
      · rename_i hempty
        exact ⟨by simpa using hempty, by simpa using h⟩
    refine ⟨sign, whole, rest, hsign, .whole (isDigits_iff.2 ⟨hsome.1, hwhole⟩), isExponent_of_read hsome.2, ?_⟩
    rw [List.append_assoc]

theorem isWord_of_readSpecial? (h : (readSpecial? cs).isSome = true) : IsWord cs := by
  obtain ⟨sign, negative, word, hsign, htake, rfl⟩ := takeSign_split cs
  refine ⟨sign, word, hsign, ?_, rfl⟩
  rw [readSpecial?, htake] at h
  dsimp only at h
  split at h
  · rename_i hword
    rcases hword with hword | hword <;> simp [hword]
  · split at h
    · rename_i hword
      simp [hword]
    · cases h

/-- A text that is read as a number is a numeral or loose, not both. -/
theorem isNumeral_iff (h : (readFloat? cs).isSome = true) : IsNumeral cs ↔ ¬ IsLoose cs := by
  constructor
  · exact fun hnumeral => not_or.2 ⟨hnumeral.not_isWord, hnumeral.not_hasBarePoint⟩
  · intro hnot
    rw [IsLoose, not_or] at hnot
    unfold readFloat? at h
    split at h
    · rename_i hread
      exact isNumeral_of_readNumeral? (Option.isSome_of_eq_some hread) hnot.2
    · exact absurd (isWord_of_readSpecial? h) hnot.1

/-! ## What is written -/

theorem isSign_signText (s : UnpackedFloat.Sign) : IsSign (signText s) := by
  cases s with
  | positive => exact .none
  | negative => exact .minus

theorem isNumeral_of_fixed {sign : List Char} (hsign : IsSign sign) (h : IsFixed cs) : IsNumeral (sign ++ cs) :=
  ⟨sign, cs, [], hsign, h, .none, (List.append_nil _).symm⟩

theorem isDigits_toDigits (n : Nat) : isDigits (Nat.toDigits 10 n) = true :=
  isDigits_iff.2 ⟨Nat.toDigits_ne_nil, isDigit_toDigits n⟩

theorem isNumeral_intText (n : Int) : IsNumeral (intText n) := by
  unfold intText
  split
  · exact isNumeral_of_fixed .minus (.whole (isDigits_toDigits _))
  · exact isNumeral_of_fixed .none (.whole (isDigits_toDigits _))

/-- A plain text that ends in a digit is one with digits on both sides of the point. -/
theorem PlainText.isFixed (h : PlainText cs) (hlast : ∀ c ∈ cs.getLast?, c.isDigit = true) : IsFixed cs := by
  cases h with
  | whole hne hdigits => exact .whole (isDigits_iff.2 ⟨hne, hdigits⟩)
  | @fraction whole fraction hne hwhole hfraction =>
    refine .fraction (isDigits_iff.2 ⟨hne, hwhole⟩) (isDigits_iff.2 ⟨?_, hfraction⟩)
    rintro rfl
    cases hlast '.' (by simp)

theorem getLast?_positionalText {d : Digits} (hne : d.digits ≠ []) (hdigits : ∀ c ∈ d.digits, c.isDigit = true) :
    ∀ c ∈ (positionalText [] d).getLast?, c.isDigit = true := by
  intro c hc
  unfold positionalText at hc
  dsimp only at hc
  split at hc
  · rw [List.getLast?_append_of_ne_nil _ hne] at hc
    exact hdigits c (List.mem_of_getLast? hc)
  · split at hc
    · rw [List.append_nil] at hc
      rcases List.mem_append.1 (List.mem_of_getLast? hc) with hmem | hmem
      · exact hdigits c hmem
      · exact isDigit_of_mem_zeros hmem
    · have hdrop : d.digits.drop d.point.toNat ≠ [] := by
        rw [ne_eq, List.drop_eq_nil_iff]
        omega
      rw [List.append_cons, List.getLast?_append_of_ne_nil _ hdrop] at hc
      exact hdigits c (List.mem_of_mem_drop (List.mem_of_getLast? hc))

/-- Finite numbers are written as numerals. -/
theorem isNumeral_plain {x : Float} (hfinite : x.isFinite = true) : IsNumeral (plain.chars x) := by
  have hunpacked : x.toModel.unpack.isFinite = true := hfinite
  unfold Layout.chars
  split
  · rename_i heq
    rw [heq] at hunpacked
    cases hunpacked
  · rename_i heq
    rw [heq] at hunpacked
    cases hunpacked
  · exact isNumeral_of_fixed (isSign_signText _) (.whole rfl)
  · rename_i s m e hm heq
    have hdigits : ∀ c ∈ (shortest plain.tie m e).digits, c.isDigit = true := fun _ => isDigit_of_mem_shortest
    have hlast := getLast?_positionalText (shortest_digits_ne_nil plain.tie hm (mantissa_lt heq) e) hdigits
    exact isNumeral_of_fixed (isSign_signText s) ((positionalText_plain hdigits).isFixed hlast)

end SqlTemplate.Number
