import SqlTemplate.Proofs.Text.Blank
import SqlTemplate.Proofs.Token.Contents

/-! # Texts that go on

A text that goes on after a blank keeps the placeholders it had, also where both are trimmed.
-/

namespace SqlTemplate

open Text

/-- The second text begins with the first and goes on with a blank, if it goes on. -/
def Leads (a t : List Char) : Prop := ∃ r, t = a ++ r ∧ (a ≠ [] → ∀ c ∈ r.head?, isBlank c = true)

namespace Leads

variable {a t : List Char}

theorem join (before after : List String) :
    Leads (" ".intercalate before).toList (" ".intercalate (before ++ after)).toList := by
  by_cases hbefore : before = []
  · subst hbefore
    exact ⟨_, rfl, fun h => absurd rfl h⟩
  · by_cases hafter : after = []
    · subst hafter
      exact ⟨[], by simp, by simp⟩
    · refine ⟨' ' :: (" ".intercalate after).toList, ?_, fun _ c hc => by cases hc; rfl⟩
      rw [String.intercalate_append_of_ne_nil hbefore hafter, String.toList_append, String.toList_append, List.append_assoc]
      rfl

theorem trim (h : Leads a t) : Leads (trim a) (trim t) := by
  obtain ⟨r, rfl, hr⟩ := h
  by_cases hnil : Text.trim a = []
  · rw [hnil]
    exact ⟨_, rfl, fun h => absurd rfl h⟩
  · obtain ⟨before, after, hbefore, hafter, heq⟩ := eq_trim a
    have hne : a ≠ [] := by
      rintro rfl
      exact hnil rfl
    have hstart : trimStart (a ++ r) = Text.trim a ++ (after ++ r) := by
      conv_lhs => rw [heq, List.append_assoc, List.append_assoc, trimStart_append hbefore]
      refine trimStart_self fun c hc => head?_trimStart a c (head?_of_trimEnd ?_)
      rwa [List.head?_append_of_ne_nil _ hnil] at hc
    have hblank : ∀ c ∈ (trimEnd (after ++ r)).head?, isBlank c = true := by
      intro c hc
      have hmem := head?_of_trimEnd hc
      cases after with
      | nil => exact hr hne c hmem
      | cons d after =>
        cases hmem
        exact hafter c List.mem_cons_self
    -- What follows is trimmed at its end, and the first text loses its blanks there if nothing is left of it.
    have hgoes : Text.trim (a ++ r) = if (trimEnd (after ++ r)).isEmpty then Text.trim a else Text.trim a ++ trimEnd (after ++ r) := by
      rw [Text.trim, hstart, trimEnd_append, Text.trim, trimEnd_trimEnd]
    rw [hgoes]
    split_ifs
    · exact ⟨[], by simp, by simp⟩
    · exact ⟨_, rfl, fun _ => hblank⟩

/-- The placeholders of a text come first wherever it goes on. -/
theorem tokens {gs : List Glyph} (h : Leads (Glyph.text gs) t) (hgs : Glyph.Sound gs) :
    ∃ more, placeholder.tokens (.ofList t) = placeholder.tokens (.ofList (Glyph.text gs)) ++ more := by
  obtain ⟨r, rfl, hr⟩ := h
  by_cases hne : Glyph.text gs = []
  · refine ⟨placeholder.tokens (.ofList r), ?_⟩
    rw [hne, List.nil_append, Glyph.tokens_eq (.ofList []), String.toList_ofList, Glyph.read_nil]
    rfl
  · refine ⟨(Glyph.raws (Glyph.read r)).map Glyph.meant, ?_⟩
    rw [Glyph.tokens_eq, String.toList_ofList, Glyph.read_append hgs (hr hne), Glyph.raws_append, List.map_append,
      Glyph.tokens_text hgs]

end Leads

end SqlTemplate
