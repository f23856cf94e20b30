import SqlTemplate.Proofs.Mapping.Spelling

/-! # The parts of a placeholder

A placeholder begins with a name, perhaps an empty one. The type and the options stand after it, and so does the rest of the
property, so that another name in its place changes nothing else.
-/

namespace SqlTemplate.Placeholder

open Text

variable {content : String} {p : Placeholder} {name rest : List Char}

/-- The name that the content begins with. -/
def leadingName (content : String) : List Char := (trimStart content.toList).takeWhile isNameChar

/-- What stands after the name. -/
def afterName (content : String) : List Char := (trimStart content.toList).dropWhile isNameChar

theorem leadingName_append (content : String) : leadingName content ++ afterName content = trimStart content.toList :=
  List.takeWhile_append_dropWhile

theorem leadingName_chars (content : String) : ∀ c ∈ leadingName content, isNameChar c = true :=
  fun _ hc => List.mem_takeWhile_imp hc

theorem afterName_head (content : String) : ∀ c ∈ (afterName content).head?, isNameChar c = false := by
  intro c hc
  have hhead := List.head?_dropWhile_not isNameChar (trimStart content.toList)
  rw [afterName] at hc
  rw [Option.mem_def.1 hc] at hhead
  exact hhead

/-- The text of the property after its name. -/
def propertyEnd (rest : List Char) : List Char := trimEnd (rest.takeWhile isNamePart)

/-- An option does not depend on the text around it, which is for messages only. -/
theorem readOptions_congr {options : List (List Char)} {read : List (String × String)}
    (h : readOptions content options = .ok read) (content' : String) : readOptions content' options = .ok read := by
  induction options generalizing read with
  | nil => exact h
  | cons option options ih =>
    obtain ⟨first, hfirst, h⟩ := Computation.except_bind_ok.1 h
    obtain ⟨more, hmore, h⟩ := Computation.except_bind_ok.1 h
    have hfirst' : readOption content' option = .ok first := by
      unfold readOption at hfirst ⊢
      split at hfirst
      · cases hfirst
      · dsimp only at hfirst ⊢
        split_ifs at hfirst ⊢ <;> exact hfirst
    exact Computation.except_bind_ok.2 ⟨first, hfirst', Computation.except_bind_ok.2 ⟨more, ih hmore, h⟩⟩

theorem optionTexts_append {a : List Char} (h : ',' ∉ a) (cs : List Char) : optionTexts (a ++ cs) = optionTexts cs := by
  have hpass : ∀ c ∈ a, (c != ',') = true := by
    rintro c hc
    rw [bne_iff_ne]
    rintro rfl
    exact h hc
  rw [optionTexts, List.dropWhile_append_of_pos hpass, optionTexts]

theorem optionTexts_name (hname : ∀ c ∈ name, isNameChar c = true) (rest : List Char) :
    optionTexts (name ++ rest) = optionTexts rest := by
  refine optionTexts_append (fun hmem => ?_) rest
  have hpart := isNamePart_of_isNameChar (hname _ hmem)
  cases hpart

theorem property_text (hname : ∀ c ∈ name, isNameChar c = true) (hhead : ∀ c ∈ (name ++ rest).head?, isBlank c = false) :
    trim ((name ++ rest).takeWhile isNamePart) = name ++ propertyEnd rest := by
  have hparts : ∀ c ∈ name, isNamePart c = true := fun c hc => isNamePart_of_isNameChar (hname c hc)
  rw [List.takeWhile_append_of_pos hparts, trim, trimStart_self, trimEnd_append, propertyEnd]
  · split
    · rename_i hempty
      rw [List.isEmpty_iff.1 hempty, List.append_nil, trimEnd_self]
      exact fun c hc => isBlank_of_isNameChar (hname c (List.mem_of_mem_getLast? hc))
    · rfl
  · intro c hc
    refine hhead c ?_
    rw [List.head?_append, Option.mem_def, Option.or_eq_some_iff] at hc ⊢
    rw [List.head?_takeWhile, Option.filter_eq_some_iff] at hc
    exact hc.imp_right fun h => ⟨h.1, h.2.1⟩

/-- A placeholder is told by the name it begins with and by what stands after that. -/
theorem parse_ok_iff : parse content = .ok p ↔
    (trimStart content.toList).head? ≠ some '(' ∧ readOptions content (optionTexts (afterName content)) = .ok p.options ∧
      p.property = .ofList (leadingName content ++ propertyEnd (afterName content)) ∧
      p.sqlType = typeOf? ((afterName content).dropWhile isNamePart) := by
  have hproperty : trim ((trimStart content.toList).takeWhile isNamePart) =
      leadingName content ++ propertyEnd (afterName content) := by
    rw [← property_text (leadingName_chars content), leadingName_append]
    rw [leadingName_append]
    exact head?_trimStart _
  have hoptions : optionTexts (trimStart content.toList) = optionTexts (afterName content) := by
    rw [← leadingName_append, optionTexts_name (leadingName_chars content)]
  have htype : (trimStart content.toList).dropWhile isNamePart = (afterName content).dropWhile isNamePart := by
    rw [← leadingName_append, List.dropWhile_append_of_pos]
    exact fun c hc => isNamePart_of_isNameChar (leadingName_chars content c hc)
  obtain ⟨property, sqlType, options⟩ := p
  rw [parse]
  split_ifs with hparen
  · simp [hparen]
  · rw [Computation.except_map_ok, hproperty, hoptions, htype]
    simp only [mk.injEq]
    constructor
    · rintro ⟨read, hread, rfl, rfl, rfl⟩
      exact ⟨hparen, hread, rfl, rfl⟩
    · rintro ⟨-, hread, rfl, rfl⟩
      exact ⟨options, hread, rfl, rfl, rfl⟩

section Other

variable {other : String} (hne : other.toList ≠ []) (hother : ∀ c ∈ other.toList, isNameChar c = true) (content : String)

include hne hother

theorem leadingName_other : leadingName (other ++ .ofList (afterName content)) = other.toList ∧
    afterName (other ++ .ofList (afterName content)) = afterName content := by
  obtain ⟨htake, hdrop⟩ := run_split hother (afterName_head content)
  have htrim : trimStart (other ++ .ofList (afterName content)).toList = other.toList ++ afterName content := by
    rw [String.toList_append, String.toList_ofList, ← List.nil_append (other.toList ++ _)]
    exact trimStart_name (by simp) hne hother _
  constructor
  · exact (congrArg (List.takeWhile isNameChar) htrim).trans htake
  · exact (congrArg (List.dropWhile isNameChar) htrim).trans hdrop

variable {content}

/-- With another name at its front a placeholder is accepted as before, and only its property is another. -/
theorem parse_other (h : parse content = .ok p) :
    ∃ q, parse (other ++ .ofList (afterName content)) = .ok q ∧ q.sqlType = p.sqlType ∧ q.options = p.options := by
  obtain ⟨-, hoptions, -, htype⟩ := parse_ok_iff.1 h
  obtain ⟨hname, hafter⟩ := leadingName_other hne hother content
  refine ⟨⟨.ofList (other.toList ++ propertyEnd (afterName content)), p.sqlType, p.options⟩, parse_ok_iff.2 ?_, rfl, rfl⟩
  rw [← leadingName_append, hname, hafter]
  refine ⟨fun hparen => ?_, readOptions_congr hoptions _, rfl, htype⟩
  rw [List.head?_append_of_ne_nil _ hne] at hparen
  exact absurd (hother '(' (List.mem_of_mem_head? hparen)) (by decide)

end Other

/-! ## The path of the property -/

theorem propertyEnd_prefix (rest : List Char) : propertyEnd rest <+: rest :=
  (List.rdropWhile_prefix isBlank _).trans (List.takeWhile_prefix isNamePart)

theorem propertyEnd_head (hhead : ∀ c ∈ rest.head?, isNameChar c = false) :
    ∀ c ∈ (propertyEnd rest).head?, isNameChar c = false := by
  intro c hc
  obtain ⟨more, hmore⟩ := propertyEnd_prefix rest
  refine hhead c ?_
  rw [← hmore, List.head?_append, Option.mem_def.1 hc]
  rfl

theorem toList_property (h : parse content = .ok p) :
    p.property.toList = leadingName content ++ propertyEnd (afterName content) := by
  rw [(parse_ok_iff.1 h).2.2.1, String.toList_ofList]

theorem trim_property (h : parse content = .ok p) : trim p.property.toList = p.property.toList := by
  rw [toList_property h, ← property_text (leadingName_chars content), trim_trim]
  rw [leadingName_append]
  exact head?_trimStart _

/-- The property is a path if a name begins it and what comes after the name can be read as steps. -/
theorem readSteps?_property (h : parse content = .ok p) :
    Path.readSteps? p.property.toList =
      if leadingName content = [] then none
      else (Step.readAll? (propertyEnd (afterName content))).map (.property (.ofList (leadingName content)), ·) := by
  obtain ⟨htake, hdrop⟩ := run_split (leadingName_chars content) (propertyEnd_head (afterName_head content))
  rw [toList_property h, Path.readSteps?, htake, hdrop]
  simp only [List.isEmpty_iff]

theorem path_property (h : parse content = .ok p) :
    Path.parse p.property =
      match Path.readSteps? p.property.toList with
      | some (first, steps) => ⟨p.property, first, steps⟩
      | none => ⟨p.property, .property p.property, []⟩ := by
  rw [Path.parse, trim_property h]
  cases Path.readSteps? p.property.toList with
  | none => simp only [String.ofList_toList]
  | some => simp only [String.ofList_toList]

end SqlTemplate.Placeholder
