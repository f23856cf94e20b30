import SqlTemplate.Path
import SqlTemplate.Proofs.Mapping.Extraction
import SqlTemplate.Proofs.Text.Reading
import SqlTemplate.Proofs.Token.Enclosed

/-! # Paths as they are written

The texts that are read as paths, and what a placeholder with nothing but a path in it is mapped to.
-/

namespace SqlTemplate

open Text

theorem trimStart_name {before name : List Char} (hbefore : ∀ c ∈ before, isBlank c = true) (hne : name ≠ [])
    (hname : ∀ c ∈ name, isNameChar c = true) (rest : List Char) : trimStart (before ++ (name ++ rest)) = name ++ rest := by
  rw [trimStart_append hbefore, trimStart_self]
  intro c hc
  rw [List.head?_append_of_ne_nil _ hne] at hc
  exact isBlank_of_isNameChar (hname c (List.mem_of_mem_head? hc))

theorem isNamePart_of_isNameChar {c : Char} (h : isNameChar c = true) : Placeholder.isNamePart c = true := by
  rw [Placeholder.isNamePart, Bool.and_eq_true, bne_iff_ne, bne_iff_ne]
  constructor
  · rintro rfl
    revert h
    decide
  · rintro rfl
    revert h
    decide

theorem isNamePart_of_isBlank {c : Char} (h : isBlank c = true) : Placeholder.isNamePart c = true := by
  rw [Placeholder.isNamePart, Bool.and_eq_true, bne_iff_ne, bne_iff_ne]
  constructor
  · rintro rfl
    cases h
  · rintro rfl
    cases h

namespace Step

theorem readAll?_property (cs : List Char) :
    readAll? ('.' :: cs) =
      if (cs.takeWhile isNameChar).isEmpty then none
      else (readAll? (cs.dropWhile isNameChar)).map (.property (.ofList (cs.takeWhile isNameChar)) :: ·) := by
  rw [readAll?]

theorem readAll?_index (cs : List Char) :
    readAll? ('[' :: cs) = match breakOn [']'] cs with
      | some (key, rest) => (readAll? rest).map (.index (.ofList (trim key)) :: ·)
      | none => none := by
  rw [readAll?]
  split <;> simp_all

/-- The texts of steps, with blanks around the keys. -/
inductive Spells : List Step → List Char → Prop
  | nil : Spells [] []
  | property {name rest : List Char} {steps : List Step} (hne : name ≠ []) (hname : ∀ c ∈ name, isNameChar c = true)
    (hrest : Spells steps rest) : Spells (.property (.ofList name) :: steps) ('.' :: (name ++ rest))
  | index {key inside rest : List Char} {steps : List Step} (hkey : ']' ∉ key) (htrim : trim key = key) (hinside : Padded key inside)
    (hrest : Spells steps rest) : Spells (.index (.ofList key) :: steps) ('[' :: (inside ++ ']' :: rest))

end Step

/-- A text that is read as steps to its end. -/
inductive Stepped : List Char → Prop
  | nil : Stepped []
  | property {name rest : List Char} (hne : name ≠ []) (hname : ∀ c ∈ name, isNameChar c = true) (hrest : Stepped rest) :
    Stepped ('.' :: (name ++ rest))
  | index {key rest : List Char} (hkey : ']' ∉ key) (hrest : Stepped rest) : Stepped ('[' :: (key ++ ']' :: rest))

namespace Stepped

variable {cs : List Char}

theorem head (h : Stepped cs) : ∀ c ∈ cs.head?, c = '.' ∨ c = '[' := by
  cases h with
  | nil => simp
  | property => simp
  | index => simp

theorem of_readAll? (h : (Step.readAll? cs).isSome = true) : Stepped cs := by
  induction hn : cs.length using Nat.strongRecOn generalizing cs with
  | _ n ih =>
    cases cs with
    | nil => exact nil
    | cons c cs =>
      -- A step begins with a dot or a bracket, and nothing else is read.
      by_cases hdot : c = '.'
      · subst hdot
        rw [Step.readAll?_property] at h
        split_ifs at h with hempty
        · cases h
        · rw [Option.isSome_map] at h
          have hlen := (List.dropWhile_suffix isNameChar (l := cs)).length_le
          have hrest := ih _ (by simp at hn; omega) h rfl
          have hproperty := property (by simpa using hempty) (fun d hd => List.mem_takeWhile_imp hd) hrest
          rwa [List.takeWhile_append_dropWhile] at hproperty
      · by_cases hbracket : c = '['
        · subst hbracket
          rw [Step.readAll?_index] at h
          cases hb : breakOn [']'] cs with
          | none => simp [hb] at h
          | some found =>
            obtain ⟨key, rest⟩ := found
            simp only [hb, Option.isSome_map] at h
            have hcs := eq_append_of_breakOn hb
            have hrest := ih _ (by rw [← hn, hcs]; simp; omega) h rfl
            rw [hcs, List.append_assoc]
            exact index (notMem_of_breakOn hb) hrest
        · rw [Step.readAll?] at h
          · cases h
          · simp
          · simpa using hdot
          · simpa using hbracket

theorem not_name (h : Stepped cs) : ∀ c ∈ cs.head?, isNameChar c = false := by
  intro c hc
  rcases h.head c hc with rfl | rfl <;> decide

end Stepped

namespace Step.Spells

variable {steps : List Step} {cs : List Char}

theorem stepped (h : Spells steps cs) : Stepped cs := by
  induction h with
  | nil => exact .nil
  | property hne hname hrest ih => exact .property hne hname ih
  | index hkey htrim hinside hrest ih => exact .index (fun hmem => (hinside.mem hmem).elim (by decide) hkey) ih

theorem readAll? (h : Spells steps cs) : Step.readAll? cs = some steps := by
  induction h with
  | nil => rw [Step.readAll?]
  | property hne hname hrest ih =>
    obtain ⟨htake, hdrop⟩ := run_split hname hrest.stepped.not_name
    rw [Step.readAll?_property, htake, hdrop, if_neg (by simpa using hne), ih]
    rfl
  | index hkey htrim hinside hrest ih =>
    have hclosed := fun hmem => (hinside.mem hmem).elim (by decide) hkey
    rw [Step.readAll?_index, breakOn_append hclosed, ← hinside.trim_eq htrim]
    simp [ih]

end Step.Spells

namespace Stepped

variable {cs : List Char}

/-- What comes after the root of a path is no part of its name. -/
theorem append_blanks (h : Stepped cs) {after : List Char} (hafter : ∀ c ∈ after, isBlank c = true) :
    ∀ c ∈ (cs ++ after).head?, isNameChar c = false := by
  intro c hc
  rw [List.head?_append] at hc
  cases hhead : cs.head? with
  | some d =>
    rw [hhead] at hc
    cases hc
    exact h.not_name c hhead
  | none =>
    rw [hhead, Option.none_or] at hc
    by_contra hname
    have hblank := isBlank_of_isNameChar (Bool.of_not_eq_false hname)
    rw [hafter c (List.mem_of_mem_head? hc)] at hblank
    cases hblank

/-- The steps that the text spells out, without the blanks around keys. -/
theorem exists_spells (h : Stepped cs) : ∃ steps, Step.Spells steps cs := by
  induction h with
  | nil => exact ⟨[], .nil⟩
  | property hne hname hrest ih =>
    obtain ⟨steps, hsteps⟩ := ih
    exact ⟨_, .property hne hname hsteps⟩
  | index hkey hrest ih =>
    rename_i key rest
    obtain ⟨steps, hsteps⟩ := ih
    exact ⟨_, .index (fun hmem => hkey ((trim_inside key).subset hmem)) (trim_trim key) (padded_trim key) hsteps⟩

theorem readAll? (h : Stepped cs) : (Step.readAll? cs).isSome = true := by
  obtain ⟨steps, hsteps⟩ := h.exists_spells
  rw [hsteps.readAll?]
  rfl

theorem last (h : Stepped cs) : ∀ c ∈ cs.getLast?, isBlank c = false := by
  induction h with
  | nil => simp
  | property hne hname hrest ih =>
    rename_i name rest
    intro c hc
    rw [← List.cons_append, List.getLast?_append] at hc
    cases hlast : rest.getLast? with
    | some d =>
      rw [hlast] at hc
      cases hc
      exact ih c hlast
    | none =>
      rw [hlast, Option.none_or, List.getLast?_cons_of_ne_nil hne] at hc
      exact isBlank_of_isNameChar (hname c (List.mem_of_mem_getLast? hc))
  | index hkey hrest ih =>
    rename_i key rest
    intro c hc
    rw [← List.cons_append, ← List.singleton_append (x := ']'), ← List.append_assoc, List.getLast?_append] at hc
    cases hlast : rest.getLast? with
    | some d =>
      rw [hlast] at hc
      cases hc
      exact ih c hlast
    | none =>
      rw [hlast, Option.none_or, List.getLast?_concat] at hc
      cases hc
      rfl

theorem squeeze (h : Stepped cs) : Stepped (squeeze cs) := by
  induction h with
  | nil => exact nil
  | property hne hname hrest ih =>
    rw [squeeze_cons_word rfl, squeeze_append_word fun c hc => isBlank_of_isNameChar (hname c hc)]
    exact property hne hname ih
  | index hkey hrest ih =>
    rw [squeeze_cons_word rfl, squeeze_append (by simp [isBlank]), squeeze_cons_word rfl]
    exact index (fun hmem => hkey ((mem_squeeze hmem).resolve_left (by decide))) ih

/-- A colon stands inside brackets only. -/
theorem colon (h : Stepped cs) {rest : List Char} (hrest : cs.dropWhile Placeholder.isNamePart = ':' :: rest) : ']' ∈ rest := by
  induction h generalizing rest with
  | nil => cases hrest
  | property hne hname htail ih =>
    rename_i name tail
    have hpart : ∀ c ∈ '.' :: name, Placeholder.isNamePart c = true :=
      List.forall_mem_cons.2 ⟨rfl, fun c hc => isNamePart_of_isNameChar (hname c hc)⟩
    rw [← List.cons_append, List.dropWhile_append_of_pos hpart] at hrest
    exact ih hrest
  | index hkey htail ih =>
    rename_i key tail
    rw [List.dropWhile_cons_of_pos rfl, List.dropWhile_append] at hrest
    split_ifs at hrest with hempty
    · rw [List.dropWhile_cons_of_pos rfl] at hrest
      exact ih hrest
    · cases hkey' : key.dropWhile Placeholder.isNamePart with
      | nil => simp [hkey'] at hempty
      | cons c more =>
        rw [hkey', List.cons_append, List.cons.injEq] at hrest
        rw [← hrest.2]
        simp

end Stepped

namespace SqlType

theorem name_free (t : SqlType) : ∀ c ∈ t.name.toList, c.toLower ≠ ']' := by
  have hall : t.name.toList.all (fun c => c.toLower ≠ ']') = true := by cases t <;> decide
  simpa using hall

end SqlType

theorem exists_sameLetter {as bs : List Char} (h : sameText as bs = true) {b : Char} (hb : b ∈ bs) :
    ∃ a ∈ as, sameLetter a b = true := by
  induction as generalizing bs with
  | nil => cases bs <;> simp_all [sameText]
  | cons a as ih =>
    cases bs with
    | nil => cases hb
    | cons d bs =>
      rw [sameText, Bool.and_eq_true] at h
      rcases List.mem_cons.1 hb with rfl | hb
      · exact ⟨a, List.mem_cons_self, h.1⟩
      · obtain ⟨x, hx, hsame⟩ := ih h.2 hb
        exact ⟨x, List.mem_cons_of_mem _ hx, hsame⟩

theorem SqlType.read_free {cs : List Char} {t : SqlType} (h : SqlType.read (.ofList cs) = .ok t) : ']' ∉ trim cs := by
  intro hmem
  unfold SqlType.read at h
  dsimp only at h
  split at h
  · rename_i found hfound
    have hsame := List.find?_some hfound
    rw [sameName, trimString, String.toList_ofList, String.toList_ofList] at hsame
    obtain ⟨a, ha, hletter⟩ := exists_sameLetter hsame hmem
    exact name_free found a ha (by simpa [sameLetter] using hletter)
  · cases h

/-! ## Paths in placeholders -/

/-- A path with blanks around it, given its root and its steps. -/
structure Spelled (cs name tail : List Char) : Prop where
  around : ∃ before after, (∀ c ∈ before, isBlank c = true) ∧ (∀ c ∈ after, isBlank c = true) ∧
    cs = before ++ (name ++ tail) ++ after
  hne : name ≠ []
  hname : ∀ c ∈ name, isNameChar c = true
  stepped : Stepped tail

namespace Spelled

variable {cs name tail : List Char}

theorem head (h : Spelled cs name tail) : ∀ c ∈ (name ++ tail).head?, isNameChar c = true := by
  intro c hc
  rw [List.head?_append_of_ne_nil _ h.hne] at hc
  exact h.hname c (List.mem_of_mem_head? hc)

theorem last (h : Spelled cs name tail) : ∀ c ∈ (name ++ tail).getLast?, isBlank c = false := by
  intro c hc
  rw [List.getLast?_append] at hc
  cases hlast : tail.getLast? with
  | some d =>
    rw [hlast] at hc
    cases hc
    exact h.stepped.last c hlast
  | none =>
    rw [hlast, Option.none_or] at hc
    exact isBlank_of_isNameChar (h.hname c (List.mem_of_mem_getLast? hc))

theorem trim_eq (h : Spelled cs name tail) : trim cs = name ++ tail := by
  obtain ⟨before, after, hbefore, hafter, rfl⟩ := h.around
  exact trim_around hbefore hafter (fun c hc => isBlank_of_isNameChar (h.head c hc)) h.last

theorem parse_eq (h : Spelled cs name tail) :
    Path.parse (.ofList cs) =
      ⟨.ofList (name ++ tail), .property (.ofList name), (Step.readAll? tail).getD []⟩ := by
  obtain ⟨steps, hsteps⟩ := Option.isSome_iff_exists.1 h.stepped.readAll?
  obtain ⟨htake, hdrop⟩ := run_split h.hname h.stepped.not_name
  have hread : Path.readSteps? (name ++ tail) = some (.property (.ofList name), steps) := by
    rw [Path.readSteps?, htake, hdrop, hsteps, if_neg (by simpa using h.hne)]
    rfl
  rw [Path.parse, String.toList_ofList, h.trim_eq]
  simp only [hread, hsteps, Option.getD_some]

theorem squeeze (h : Spelled cs name tail) : Spelled (squeeze cs) name (squeeze tail) := by
  have hblank {cs : List Char} (hcs : ∀ c ∈ cs, isBlank c = true) : ∀ c ∈ Text.squeeze cs, isBlank c = true := by
    intro c hc
    rcases mem_squeeze hc with rfl | hc
    · rfl
    · exact hcs c hc
  obtain ⟨before, after, hbefore, hafter, rfl⟩ := h.around
  refine ⟨⟨Text.squeeze before, Text.squeeze after, hblank hbefore, hblank hafter, ?_⟩, h.hne, h.hname, h.stepped.squeeze⟩
  have hlast : ∀ c ∈ (before ++ (name ++ tail)).getLast?, isBlank c = false := by
    intro c hc
    rw [List.getLast?_append_of_ne_nil _ (by simp [h.hne])] at hc
    exact h.last c hc
  rw [squeeze_append_last hlast, squeeze_append fun c hc => isBlank_of_isNameChar (h.head c hc),
    squeeze_append_word fun c hc => isBlank_of_isNameChar (h.hname c hc)]

theorem bare (h : Spelled cs name tail) : Spelled (name ++ tail) name tail :=
  ⟨⟨[], [], by simp, by simp, by simp⟩, h.hne, h.hname, h.stepped⟩

/-- What comes after the property, if anything does. -/
theorem rest_eq (h : Spelled cs name tail) (hcomma : ',' ∉ tail) {after : List Char} (hafter : ∀ c ∈ after, isBlank c = true) :
    (name ++ tail ++ after).dropWhile Placeholder.isNamePart = [] ∨
      ∃ rest, (name ++ tail ++ after).dropWhile Placeholder.isNamePart = ':' :: rest ∧ ',' ∉ rest ∧ ']' ∈ rest := by
  have hparts : ∀ c ∈ after, Placeholder.isNamePart c = true := fun c hc => isNamePart_of_isBlank (hafter c hc)
  rw [List.append_assoc, List.dropWhile_append_of_pos fun c hc => isNamePart_of_isNameChar (h.hname c hc), List.dropWhile_append]
  split_ifs with hempty
  · exact .inl (List.dropWhile_eq_nil_iff.2 hparts)
  · right
    cases htail : tail.dropWhile Placeholder.isNamePart with
    | nil => simp [htail] at hempty
    | cons c rest =>
      have hmem : ∀ d ∈ c :: rest, d ∈ tail := fun d hd => (List.dropWhile_suffix _).subset (htail ▸ hd)
      have hc : c = ':' := by
        have hnot := List.head?_dropWhile_not Placeholder.isNamePart tail
        rw [htail] at hnot
        by_contra hne
        have hne' : c ≠ ',' := fun heq => hcomma (heq ▸ hmem c List.mem_cons_self)
        simp [Placeholder.isNamePart, hne, hne'] at hnot
      subst hc
      refine ⟨rest ++ after, rfl, ?_, List.mem_append_left _ (h.stepped.colon htail)⟩
      rw [List.mem_append, not_or]
      exact ⟨fun hr => hcomma (hmem _ (List.mem_cons_of_mem _ hr)), fun ha => absurd (hafter _ ha) (by decide)⟩

/-- The placeholder has no options, and if it has a type there is a bracket in that. -/
theorem parse_placeholder (h : Spelled cs name tail) (hcomma : ',' ∉ tail) {p : Placeholder}
    (hp : Placeholder.parse (.ofList cs) = .ok p) :
    p.options = [] ∧ ((p.property = .ofList (name ++ tail) ∧ p.sqlType = none) ∨
      ∃ type, p.sqlType = some (.ofList type) ∧ ']' ∈ trim type) := by
  obtain ⟨before, after, hbefore, hafter, rfl⟩ := h.around
  have hstart : trimStart (before ++ (name ++ tail) ++ after) = name ++ tail ++ after := by
    simpa using trimStart_name hbefore h.hne h.hname (tail ++ after)
  have hparen : (name ++ tail ++ after).head? ≠ some '(' := by
    intro heq
    rw [List.head?_append_of_ne_nil _ (by simp [h.hne])] at heq
    exact absurd (h.head '(' heq) (by decide)
  have hoptions : Placeholder.optionTexts (name ++ tail ++ after) = [] := by
    have hall : (name ++ tail ++ after).dropWhile (· != ',') = [] := by
      refine List.dropWhile_eq_nil_iff.2 fun c hc => ?_
      rw [bne_iff_ne]
      rintro rfl
      rcases List.mem_append.1 hc with hc | hc
      · exact (List.mem_append.1 hc).elim (fun hn => absurd (h.hname _ hn) (by decide)) hcomma
      · exact absurd (hafter _ hc) (by decide)
    rw [Placeholder.optionTexts, hall]
  unfold Placeholder.parse at hp
  rw [String.toList_ofList, hstart] at hp
  simp only [if_neg hparen, hoptions, Placeholder.readOptions, Except.map, Except.ok.injEq] at hp
  subst hp
  refine ⟨rfl, ?_⟩
  -- The property goes on to the end, or to a colon in a bracket, which is taken for the beginning of a type.
  rcases h.rest_eq hcomma hafter with hrest | ⟨rest, hrest, hcomma', hbracket⟩
  · have hall : (name ++ tail ++ after).takeWhile Placeholder.isNamePart = name ++ tail ++ after := by
      have hsplit := List.takeWhile_append_dropWhile (p := Placeholder.isNamePart) (l := name ++ tail ++ after)
      rwa [hrest, List.append_nil] at hsplit
    have htrim : trim (name ++ tail ++ after) = name ++ tail := by
      have haround := trim_around (a := []) (by simp) hafter (fun c hc => isBlank_of_isNameChar (h.head c hc)) h.last
      rwa [List.nil_append] at haround
    exact .inl ⟨by rw [hall, htrim], by rw [hrest]; rfl⟩
  · have hall : rest.takeWhile (· != ',') = rest := by
      refine List.takeWhile_eq_self_iff.2 fun c hc => ?_
      rw [bne_iff_ne]
      rintro rfl
      exact hcomma' hc
    have hmem : ']' ∈ trim rest := mem_trim rfl hbracket
    refine .inr ⟨trim rest, ?_, mem_trim rfl hmem⟩
    simp only [hrest, Placeholder.typeOf?, hall]
    rw [if_neg]
    rw [List.isEmpty_iff]
    exact List.ne_nil_of_mem hmem

theorem reads (h : Spelled cs name tail) (hcomma : ',' ∉ tail) {m : ParameterMapping} (hm : Scope.Reads (.ofList cs) m) :
    m.property = .ofList (name ++ tail) ∧ m.mode = .input := by
  obtain ⟨p, hp, hproperty, htype, hmode⟩ := hm
  obtain ⟨hoptions, ⟨hname, -⟩ | ⟨type, hsome, hbracket⟩⟩ := h.parse_placeholder hcomma hp
  · refine ⟨hproperty.trans hname, ?_⟩
    simp [Scope.modeOf, Placeholder.option?, hoptions] at hmode
    exact hmode.symm
  · simp only [Scope.sqlTypeOf, Placeholder.option?, hoptions, List.reverse_nil, List.lookup_nil, Option.none_or, hsome] at htype
    split at htype
    · rename_i hread
      exact absurd hbracket (SqlType.read_free hread)
    · cases htype

end Spelled

end SqlTemplate
