import SqlTemplate.Proofs.Value.Numeral

/-! # Texts of floating-point numbers

Outside JSON a finite number is written as digits, perhaps with a point among them and a minus sign before them. Such a text has no
blanks and reads as a number.
-/

namespace SqlTemplate.Number

open Text
open Float.Model (UnpackedFloat)

variable {cs : List Char}

/-- Digits, perhaps with a point and more digits after them. -/
inductive PlainText : List Char → Prop
  | whole {digits : List Char} (hne : digits ≠ []) (hdigits : ∀ c ∈ digits, c.isDigit = true) : PlainText digits
  | fraction {whole fraction : List Char} (hne : whole ≠ []) (hwhole : ∀ c ∈ whole, c.isDigit = true)
    (hfraction : ∀ c ∈ fraction, c.isDigit = true) : PlainText (whole ++ '.' :: fraction)

namespace PlainText

theorem head (h : PlainText cs) : ∀ c ∈ cs.head?, c.isDigit = true := by
  intro c hc
  cases h with
  | whole hne hdigits => exact hdigits c (List.mem_of_mem_head? hc)
  | fraction hne hwhole =>
    rw [List.head?_append_of_ne_nil _ hne] at hc
    exact hwhole c (List.mem_of_mem_head? hc)

theorem visible (h : PlainText cs) : ∀ c ∈ cs, isBlank c = false := by
  cases h with
  | whole hne hdigits => exact fun c hc => isBlank_of_isDigit (hdigits c hc)
  | fraction hne hwhole hfraction =>
    intro c hc
    rcases List.mem_append.1 hc with hc | hc
    · exact isBlank_of_isDigit (hwhole c hc)
    · rcases List.mem_cons.1 hc with rfl | hc
      · decide
      · exact isBlank_of_isDigit (hfraction c hc)

theorem takeSign (h : PlainText cs) (s : UnpackedFloat.Sign) : ∃ negative, takeSign (signText s ++ cs) = (negative, cs) := by
  cases s with
  | positive => exact ⟨_, takeSign_digits h.head⟩
  | negative => exact ⟨_, rfl⟩

theorem readNumeral? (h : PlainText cs) (s : UnpackedFloat.Sign) : (readNumeral? (signText s ++ cs)).isSome = true := by
  obtain ⟨negative, hsign⟩ := h.takeSign s
  rw [Number.readNumeral?, hsign]
  cases h with
  | whole hne hdigits =>
    obtain ⟨htake, hdrop⟩ := run_whole hdigits
    simp [htake, hdrop, hne, readExponent?]
  | @fraction whole fraction hne hwhole hfraction =>
    have hpoint : ∀ c ∈ ('.' :: fraction).head?, c.isDigit = false := by simp
    obtain ⟨htake, hdrop⟩ := run_split hwhole hpoint
    simp [htake, hdrop, (run_whole hfraction).2, hne, readExponent?]

end PlainText

theorem isDigit_of_mem_zeros {n : Nat} {c : Char} (h : c ∈ zeros n) : c.isDigit = true := by
  rw [(List.mem_replicate.1 h).2]
  rfl

theorem isDigit_of_mem_shortest {tie : Tie} {m : Nat} {e : Int} {c : Char} (h : c ∈ (shortest tie m e).digits) : c.isDigit = true := by
  rw [shortest, List.mem_reverse] at h
  exact isDigit_toDigits _ c (List.mem_reverse.1 ((List.dropWhile_suffix _).subset h))

theorem positionalText_plain {d : Digits} (hdigits : ∀ c ∈ d.digits, c.isDigit = true) : PlainText (positionalText [] d) := by
  have hzeros (n : Nat) : ∀ c ∈ d.digits ++ zeros n, c.isDigit = true :=
    List.forall_mem_append.2 ⟨hdigits, fun _ => isDigit_of_mem_zeros⟩
  unfold positionalText
  dsimp only
  split
  · show PlainText (['0'] ++ '.' :: (zeros _ ++ d.digits))
    refine .fraction (by simp) (by simp) ?_
    exact List.forall_mem_append.2 ⟨fun _ => isDigit_of_mem_zeros, hdigits⟩
  · rename_i hpoint
    split
    · rename_i hlength
      rw [List.append_nil]
      refine .whole (List.ne_nil_of_length_pos ?_) (hzeros _)
      rw [List.length_append, zeros, List.length_replicate]
      omega
    · rename_i hlength
      refine .fraction (List.ne_nil_of_length_pos ?_) (fun c hc => hdigits c (List.mem_of_mem_take hc))
        fun c hc => hdigits c (List.mem_of_mem_drop hc)
      rw [List.length_take]
      omega

/-- A finite number is a sign and a plain text. -/
theorem plain_chars {x : Float} (hfinite : x.isFinite = true) : ∃ s cs, plain.chars x = signText s ++ cs ∧ PlainText cs := by
  have hunpacked : x.toModel.unpack.isFinite = true := hfinite
  unfold Layout.chars
  split
  · rename_i heq
    rw [heq] at hunpacked
    cases hunpacked
  · rename_i heq
    rw [heq] at hunpacked
    cases hunpacked
  · exact ⟨_, ['0'], rfl, .whole (by simp) (by simp)⟩
  · exact ⟨_, _, rfl, positionalText_plain fun _ => isDigit_of_mem_shortest⟩

theorem trim_plain {x : Float} (hfinite : x.isFinite = true) : trim (plain.chars x) = plain.chars x := by
  obtain ⟨s, cs, hchars, hplain⟩ := plain_chars hfinite
  rw [hchars]
  refine trim_visible (List.forall_mem_append.2 ⟨?_, hplain.visible⟩)
  cases s <;> simp [signText, isBlank]

theorem readFloat?_plain {x : Float} (hfinite : x.isFinite = true) : (readFloat? (plain.chars x)).isSome = true := by
  obtain ⟨s, cs, hchars, hplain⟩ := plain_chars hfinite
  obtain ⟨n, hn⟩ := Option.isSome_iff_exists.1 (hplain.readNumeral? s)
  rw [hchars, readFloat?, hn]
  rfl

end SqlTemplate.Number
