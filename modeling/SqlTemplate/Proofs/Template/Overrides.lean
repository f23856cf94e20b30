import SqlTemplate.Proofs.Text.Edge
import SqlTemplate.Template.Clause

/-! # What a clause takes off

A clause takes one override off each end at most, and never more of it than is there. The override is taken off as it is written in
the text, without the blanks around it, and the blanks that are then at the ends go as well.
-/

namespace SqlTemplate.Clause

open Text

variable {c : Clause} {body : List Char}

/-- The clauses that elements stand for. -/
inductive Written : Clause → Prop
  | trim (lead tail leadOverrides tailOverrides : Option String) :
    Written ⟨lead, tail, readOverrides leadOverrides, readOverrides tailOverrides⟩
  | where : Written .where
  | set : Written .set

theorem Written.ne_nil (h : c.Written) : ∀ override ∈ c.leadOverrides, override.toList ≠ [] := by
  cases h with
  | trim lead tail leadOverrides tailOverrides =>
    cases leadOverrides with
    | none => simp [readOverrides]
    | some s =>
      intro override hmem
      obtain ⟨field, hfield, rfl⟩ := List.mem_map.1 hmem
      have hne : field ≠ [] := by simpa using (List.mem_filter.1 hfield).2
      simpa [asciiUpper] using hne
  | «where» => decide
  | «set» => decide

/-! ## Overrides in order -/

/-- The part is the first override of its kind without the blanks around it. It is empty only if there is none of the kind. -/
def Taken (kind : String → Prop) (overrides : List String) (part : List Char) : Prop :=
  (part = [] ∧ ∀ override ∈ overrides, ¬ kind override) ∨
    part ≠ [] ∧ ∃ before override after, overrides = before ++ override :: after ∧ (∀ other ∈ before, ¬ kind other) ∧
      kind override ∧ sameText (trim override.toList) part = true

/-- The text begins with the override. -/
def Leads (text : List Char) (override : String) : Prop := Begins override.toList text

/-- The text ends with the override or with what it is without the blanks around it, which is not nothing. -/
def Trails (text : List Char) (override : String) : Prop :=
  trim override.toList ≠ [] ∧ (Ends override.toList text ∨ Ends (trim override.toList) text)

theorem leads_iff {override : String} : leads body override = true ↔ Leads body override := startsLike_iff

theorem trails_iff {override : String} (hlast : ∀ c ∈ body.getLast?, isBlank c = false) :
    trails body override = true ↔ Trails body override := by
  rw [trails, Bool.or_eq_true, endsLike_iff, endsLike_iff, Trails]
  constructor
  · rintro (⟨hne, hends⟩ | ⟨hne, hends⟩)
    · exact ⟨(hends.trim hne hlast).1, .inl hends⟩
    · exact ⟨hne, .inr hends⟩
  · rintro ⟨hne, hends | hends⟩
    · refine .inl ⟨fun hnil => hne ?_, hends⟩
      rw [hnil]
      rfl
    · exact .inr ⟨hne, hends⟩

theorem Trails.ends {override : String} (h : Trails body override) (hlast : ∀ c ∈ body.getLast?, isBlank c = false) :
    Ends (trim override.toList) body := by
  obtain ⟨hne, hends | hends⟩ := h
  · refine (hends.trim (fun hnil => hne ?_) hlast).2
    rw [hnil]
    rfl
  · exact hends

theorem ne_nil_of_sameText {a b : List Char} (h : sameText a b = true) (ha : a ≠ []) : b ≠ [] := by
  rintro rfl
  exact ha (List.length_eq_zero_iff.1 (length_sameText h))

theorem taken_nil {kind : String → Prop} {found : String → Bool} {overrides : List String}
    (hkind : ∀ override, found override = true ↔ kind override) (h : overrides.find? found = none) : Taken kind overrides [] :=
  .inl ⟨rfl, fun override hmem => (hkind override).not.1 (List.find?_eq_none.1 h override hmem)⟩

theorem taken_of_find? {kind : String → Prop} {found : String → Bool} {overrides : List String} {override : String} {part : List Char}
    (hkind : ∀ override, found override = true ↔ kind override) (h : overrides.find? found = some override)
    (hne : trim override.toList ≠ []) (hsame : sameText (trim override.toList) part = true) : Taken kind overrides part := by
  obtain ⟨hfound, before, after, horder, hbefore⟩ := List.find?_eq_some_iff_append.1 h
  refine .inr ⟨ne_nil_of_sameText hsame hne, before, override, after, horder, fun other hother => ?_, (hkind _).1 hfound, hsame⟩
  exact (hkind other).not.1 (by simpa using hbefore other hother)

/-! ## One end -/

theorem dropLead_parts (c : Clause) (hne : ∀ override ∈ c.leadOverrides, override.toList ≠ [])
    (hhead : ∀ d ∈ body.head?, isBlank d = false) :
    ∃ p, body = p ++ c.dropLead body ∧ Taken (Leads body) c.leadOverrides p := by
  unfold dropLead
  split
  · rename_i override hfind
    have hleads := leads_iff.1 (List.find?_some hfind)
    obtain ⟨htrim, p, rest, hbody, hsame⟩ := hleads.trim (hne override (List.mem_of_find?_eq_some hfind)) hhead
    refine ⟨p, ?_, taken_of_find? (fun _ => leads_iff) hfind htrim hsame⟩
    rw [hbody, width, length_sameText hsame, List.drop_left]
  · rename_i hfind
    exact ⟨[], rfl, taken_nil (fun _ => leads_iff) hfind⟩

theorem dropTail_parts (c : Clause) (hlast : ∀ d ∈ body.getLast?, isBlank d = false) :
    ∃ s, body = c.dropTail body ++ s ∧ Taken (Trails body) c.tailOverrides s := by
  unfold dropTail
  split
  · rename_i override hfind
    have htrails := (trails_iff hlast).1 (List.find?_some hfind)
    obtain ⟨rest, s, hbody, hsame⟩ := htrails.ends hlast
    refine ⟨s, ?_, taken_of_find? (fun _ => trails_iff hlast) hfind htrails.1 hsame⟩
    rw [hbody, width, length_sameText hsame, List.length_append, Nat.add_sub_cancel, List.take_left]
  · rename_i hfind
    exact ⟨[], (List.append_nil _).symm, taken_nil (fun _ => trails_iff hlast) hfind⟩

/-! ## By positions in bytes -/

/-- The body after an override at the front. There is none if the override ends inside a character. -/
def dropLeadAt? (c : Clause) (body : List Char) : Option (List Char) :=
  match c.leadOverrides.find? fun override => startsAt override.toList body with
  | some override => (cutAt? (byteSize (trim override.toList)) body).map Prod.snd
  | none => some body

/-- The body before an override at the end. There is none if the override is longer or begins inside a character. -/
def dropTailAt? (c : Clause) (body : List Char) : Option (List Char) :=
  match c.tailOverrides.find? fun override => endsAt override.toList body || endsAt (trim override.toList) body with
  | some override =>
    if byteSize (trim override.toList) ≤ byteSize body then
      (cutAt? (byteSize body - byteSize (trim override.toList)) body).map Prod.fst
    else none
  | none => some body

/-- The clause around a text, made by cutting at positions in bytes. There is no answer where one of them cannot be cut at. -/
def wrapAt? (c : Clause) (text : String) : Option (Option String) :=
  if (trim text.toList).isEmpty then some none
  else
    (c.dropLeadAt? (trim text.toList)).bind fun rest => (c.dropTailAt? rest).map fun body =>
      if (trim body).isEmpty then none else some (before c.lead ++ String.ofList (trim body) ++ after c.tail)

theorem dropLeadAt?_eq (c : Clause) (hne : ∀ override ∈ c.leadOverrides, override.toList ≠ [])
    (hhead : ∀ d ∈ body.head?, isBlank d = false) : c.dropLeadAt? body = some (c.dropLead body) := by
  have hfound : (fun override => startsAt override.toList body) = leads body := by
    funext override
    exact Bool.eq_iff_iff.2 (startsAt_iff.trans startsLike_iff.symm)
  rw [dropLeadAt?, dropLead, hfound]
  cases hfind : c.leadOverrides.find? (leads body) with
  | none => rfl
  | some override =>
    have hleads := leads_iff.1 (List.find?_some hfind)
    obtain ⟨-, p, rest, rfl, hsame⟩ := hleads.trim (hne override (List.mem_of_find?_eq_some hfind)) hhead
    dsimp only
    rw [byteSize_sameText hsame, cutAt?_append, width, length_sameText hsame, List.drop_left]
    rfl

theorem dropTailAt?_eq (c : Clause) (hlast : ∀ d ∈ body.getLast?, isBlank d = false) :
    c.dropTailAt? body = some (c.dropTail body) := by
  have hfound : (fun override => endsAt override.toList body || endsAt (trim override.toList) body) = trails body := by
    funext override
    rw [trails]
    congr 1 <;> exact Bool.eq_iff_iff.2 (endsAt_iff.trans endsLike_iff.symm)
  rw [dropTailAt?, dropTail, hfound]
  cases hfind : c.tailOverrides.find? (trails body) with
  | none => rfl
  | some override =>
    obtain ⟨rest, s, rfl, hsame⟩ := ((trails_iff hlast).1 (List.find?_some hfind)).ends hlast
    dsimp only
    rw [byteSize_sameText hsame, byteSize_append, if_pos (Nat.le_add_left _ _), Nat.add_sub_cancel, cutAt?_append, width,
      length_sameText hsame, List.length_append, Nat.add_sub_cancel, List.take_left]
    rfl

/-! ## Both ends -/

/-- What is left of a text without blanks at its end has none there. -/
theorem getLast?_dropLead (c : Clause) (hne : ∀ override ∈ c.leadOverrides, override.toList ≠ [])
    (hhead : ∀ d ∈ body.head?, isBlank d = false) (hlast : ∀ d ∈ body.getLast?, isBlank d = false) :
    ∀ d ∈ (c.dropLead body).getLast?, isBlank d = false := by
  obtain ⟨p, hbody, -⟩ := c.dropLead_parts hne hhead
  intro d hd
  refine hlast d ?_
  rw [hbody, List.getLast?_append, Option.mem_def.1 hd]
  rfl

theorem wrapAt?_eq (c : Clause) (hne : ∀ override ∈ c.leadOverrides, override.toList ≠ []) (text : String) :
    c.wrapAt? text = some (c.wrap? text) := by
  have hhead := head?_trim text.toList
  rw [wrapAt?, wrap?, strip]
  split
  · rename_i hempty
    have hnil : trim text.toList = [] := List.isEmpty_iff.1 hempty
    -- A blank text is given up before anything is cut, and cutting takes nothing off it.
    have hlead : c.dropLead [] = [] := by
      unfold dropLead
      split <;> simp
    have htail : c.dropTail [] = [] := by
      unfold dropTail
      split <;> simp
    rw [hnil, hlead, htail]
    rfl
  · rw [c.dropLeadAt?_eq hne hhead, Option.bind_some, c.dropTailAt?_eq (c.getLast?_dropLead hne hhead (getLast?_trim _))]
    rfl

theorem surrounded (lead tail : Option String) (s : String) :
    before lead ++ s ++ after tail = " ".intercalate (lead.toList ++ s :: tail.toList) := by
  cases lead <;> cases tail <;> simp [before, after, String.intercalate_cons_cons, String.append_assoc]

/-- A clause cuts a text only where it can be cut. It takes at most one override off each end, the first that is there, and the
blanks between these and the body, and nothing is made of a text of which no body is left. -/
theorem wrap?_parts {c : Clause} (hc : c.Written) (text : String) :
    c.wrapAt? text = some (c.wrap? text) ∧
      ∃ p w₁ b w₂ s, trim text.toList = p ++ w₁ ++ b ++ w₂ ++ s ∧ (∀ d ∈ w₁ ++ w₂, isBlank d = true) ∧
        (∀ d ∈ b.head?, isBlank d = false) ∧ (∀ d ∈ b.getLast?, isBlank d = false) ∧
        Taken (Leads (trim text.toList)) c.leadOverrides p ∧ Taken (Trails (w₁ ++ b ++ w₂ ++ s)) c.tailOverrides s ∧
        c.wrap? text = if b = [] then none else some (" ".intercalate (c.lead.toList ++ String.ofList b :: c.tail.toList)) := by
  refine ⟨c.wrapAt?_eq hc.ne_nil text, ?_⟩
  have hhead := head?_trim text.toList
  obtain ⟨p, hlead, hp⟩ := c.dropLead_parts hc.ne_nil hhead
  obtain ⟨s, htail, hs⟩ := c.dropTail_parts (c.getLast?_dropLead hc.ne_nil hhead (getLast?_trim _))
  obtain ⟨w₁, w₂, hw₁, hw₂, hbody⟩ := eq_trim (c.dropTail (c.dropLead (trim text.toList)))
  -- The blanks that the overrides uncover belong to neither of them.
  have hrest : c.dropLead (trim text.toList) = w₁ ++ c.strip text.toList ++ w₂ ++ s := by
    conv_lhs => rw [htail, hbody]
    simp [strip]
  refine ⟨p, w₁, c.strip text.toList, w₂, s, ?_, List.forall_mem_append.2 ⟨hw₁, hw₂⟩, head?_trim _, getLast?_trim _, hp, ?_, ?_⟩
  · rw [hlead, hrest]
    simp
  · rwa [← hrest]
  · rw [wrap?, surrounded]
    simp

/-- The override at the end has letters of two bytes each. The blank one before it in the list does not count. -/
theorem wrap?_parts_accents :
    let c : Clause := ⟨some "(", some ")", readOverrides (some "or|and "), readOverrides (some " |éÉ|,")⟩
    let text := " AND  x é éÉ "
    c.Written ∧ c.wrapAt? text = some (c.wrap? text) ∧ c.wrap? text = some "( x é )" := by
  intro c text
  have hwritten : c.Written := .trim _ _ _ _
  exact ⟨hwritten, (wrap?_parts hwritten text).1, by decide +kernel⟩

end SqlTemplate.Clause
