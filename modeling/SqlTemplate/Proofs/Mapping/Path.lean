import SqlTemplate.Proofs.Mapping.Spelling

/-! # Paths and their texts

A name with steps after it reads back from its text, with blanks around the whole and around the keys inside the brackets. No part of
any other text is read: it is one property. Another name in place of the first leaves the steps as they are.
-/

namespace SqlTemplate.Path

open Text

/-- The texts of a path that begins with a name. -/
def Spells (name : List Char) (steps : List Step) (cs : List Char) : Prop := ∃ tail, Spelled cs name tail ∧ Step.Spells steps tail

variable {name : List Char} {steps : List Step} {text : String}

theorem parse_of_spells (h : Spells name steps text.toList) :
    parse text = ⟨trimString text, .property (.ofList name), steps⟩ := by
  obtain ⟨tail, hspelled, hsteps⟩ := h
  have hparse := hspelled.parse_eq
  rw [String.ofList_toList, hsteps.readAll?, ← hspelled.trim_eq] at hparse
  exact hparse

/-- The name that stands first can be any other. -/
theorem Spells.rename {before rest new : List Char} (h : Spells name steps (before ++ name ++ rest))
    (hbefore : ∀ c ∈ before, isBlank c = true) (hne : new ≠ []) (hnew : ∀ c ∈ new, isNameChar c = true) :
    Spells new steps (before ++ new ++ rest) := by
  obtain ⟨tail, ⟨⟨before', after, hbefore', hafter, hcs⟩, hne', hname, hstepped⟩, hsteps⟩ := h
  have hrest : rest = tail ++ after := by
    have htrimmed := congrArg trimStart hcs
    rw [List.append_assoc, trimStart_name hbefore hne' hname] at htrimmed
    simpa [trimStart_name hbefore' hne' hname] using htrimmed
  subst hrest
  exact ⟨tail, ⟨⟨before, after, hbefore, hafter, by simp⟩, hne, hnew, hstepped⟩, hsteps⟩

end SqlTemplate.Path
