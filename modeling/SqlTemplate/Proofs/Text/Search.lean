import Mathlib.Data.List.Infix
import SqlTemplate.Text.Search

/-! # Where a text breaks

A text breaks at the first occurrence of a pattern. The occurrence that was written is the first one if the pattern is not in what
stands before it and cannot begin there, which it cannot if its last character is nowhere else in it.
-/

namespace SqlTemplate.Text

variable {pattern opening body : List Char} {c : Char}

theorem after?_eq_none_iff {pattern text : List Char} : after? pattern text = none ↔ ¬ pattern <+: text := by
  rw [Option.eq_none_iff_forall_ne_some]
  constructor
  · rintro h ⟨rest, hrest⟩
    exact h rest (after?_eq_some_iff.2 hrest.symm)
  · intro h rest hrest
    exact h ⟨rest, (after?_eq_some_iff.1 hrest).symm⟩

theorem breakOn_eq_none {pattern text : List Char} (h : ¬ pattern <:+: text) : breakOn pattern text = none := by
  cases hfound : breakOn pattern text with
  | none => rfl
  | some found => exact absurd ⟨found.1, found.2, (eq_append_of_breakOn hfound).symm⟩ h

/-- An occurrence that begins in the body and goes beyond it would have the last character of the pattern before its end. -/
theorem not_prefix_of_body (hc : c ∉ opening) (hbody : ¬ (opening ++ [c]) <:+: body) (hne : body ≠ []) (rest : List Char) :
    ¬ (opening ++ [c]) <+: body ++ (opening ++ [c] ++ rest) := by
  intro hprefix
  by_cases hlength : (opening ++ [c]).length ≤ body.length
  · exact hbody (List.prefix_of_prefix_length_le hprefix (List.prefix_append _ _) hlength).isInfix
  · obtain ⟨beyond, hbeyond⟩ := List.prefix_of_prefix_length_le (List.prefix_append body _) hprefix (by omega)
    obtain ⟨rest', hrest'⟩ := hprefix
    rw [← hbeyond, List.append_assoc, List.append_cancel_left_eq, hbeyond] at hrest'
    -- The part beyond the body ends with the last character and is shorter than the pattern.
    have hmem : c ∈ beyond := by
      rcases List.eq_nil_or_concat beyond with rfl | ⟨before, last, rfl⟩
      · rw [List.append_nil] at hbeyond
        rw [hbeyond] at hlength
        exact absurd le_rfl hlength
      · rw [List.concat_eq_append, ← List.append_assoc] at hbeyond
        have hlast : last = c := (List.append_inj' hbeyond rfl).2 |> List.singleton_inj.1
        simp [hlast]
    have hshort : beyond.length ≤ opening.length := by
      have hpos := List.length_pos_of_ne_nil hne
      have htotal := congrArg List.length hbeyond
      simp only [List.length_append, List.length_singleton] at htotal
      omega
    have hin : beyond <+: opening :=
      List.prefix_of_prefix_length_le ⟨rest', hrest'⟩ ((List.prefix_append opening [c]).trans (List.prefix_append _ rest)) hshort
    exact hc (hin.subset hmem)

theorem breakOn_pattern (opening : List Char) (hc : c ∉ opening) (hbody : ¬ (opening ++ [c]) <:+: body) (rest : List Char) :
    breakOn (opening ++ [c]) (body ++ (opening ++ [c] ++ rest)) = some (body, rest) := by
  induction body with
  | nil =>
    obtain ⟨d, text, htext⟩ : ∃ d text, opening ++ [c] ++ rest = d :: text := by
      cases opening with
      | nil => exact ⟨c, rest, rfl⟩
      | cons d opening => exact ⟨d, opening ++ [c] ++ rest, rfl⟩
    have hafter := after?_append (opening ++ [c]) rest
    rw [htext] at hafter
    rw [List.nil_append, htext, breakOn, hafter]
  | cons d body ih =>
    have hnone := after?_eq_none_iff.2 (not_prefix_of_body hc hbody (by simp) rest)
    rw [List.cons_append] at hnone
    rw [List.cons_append, breakOn, hnone, ih fun hin => hbody (hin.trans (List.infix_cons (List.infix_refl _)))]
    rfl

theorem breakOn_append {x : Char} {a : List Char} (h : x ∉ a) (r : List Char) : breakOn [x] (a ++ x :: r) = some (a, r) :=
  breakOn_pattern [] (by simp) (fun hin => h ((List.singleton_infix_iff _ _).1 hin)) r

theorem notMem_of_breakOn {x : Char} {cs a r : List Char} (h : breakOn [x] cs = some (a, r)) : x ∉ a := by
  induction cs generalizing a with
  | nil => simp [breakOn, after?] at h
  | cons c cs ih =>
    rw [breakOn, after?] at h
    by_cases hc : x = c
    · simp only [hc, if_true, after?, Option.some.injEq, Prod.mk.injEq] at h
      simp [← h.1]
    · rw [if_neg hc] at h
      obtain ⟨⟨b, r'⟩, hb, heq⟩ := Option.map_eq_some_iff.1 h
      cases heq
      rw [List.mem_cons, not_or]
      exact ⟨hc, ih hb⟩

/-! ## Fields -/

theorem fieldsOn_ne_nil (separator : Char) (text : List Char) : fieldsOn separator text ≠ [] := by
  cases text with
  | nil => simp [fieldsOn]
  | cons c text =>
    rw [fieldsOn]
    split
    · simp
    · split <;> simp

theorem fieldsOn_self {separator : Char} {field : List Char} (h : separator ∉ field) : fieldsOn separator field = [field] := by
  induction field with
  | nil => rfl
  | cons c field ih =>
    rw [List.mem_cons, not_or] at h
    rw [fieldsOn, ih h.2]
    exact if_neg (Ne.symm h.1)

theorem fieldsOn_append {separator : Char} {field : List Char} (h : separator ∉ field) (rest : List Char) :
    fieldsOn separator (field ++ separator :: rest) = field :: fieldsOn separator rest := by
  induction field with
  | nil =>
    obtain ⟨first, fields, hfields⟩ := List.exists_cons_of_ne_nil (fieldsOn_ne_nil separator rest)
    rw [List.nil_append, fieldsOn, hfields]
    exact if_pos rfl
  | cons c field ih =>
    rw [List.mem_cons, not_or] at h
    rw [List.cons_append, fieldsOn, ih h.2]
    exact if_neg (Ne.symm h.1)

end SqlTemplate.Text
