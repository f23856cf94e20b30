import SqlTemplate.Proofs.Computation
import SqlTemplate.Proofs.Mapping.Content
import SqlTemplate.Proofs.Text.Search

/-! # Placeholders and their texts

A placeholder reads back from its text, with blanks around all of its parts. Of the options of one key the last counts, and one option
that is none makes the whole a mistake.
-/

namespace SqlTemplate.Placeholder

open Text
open SqlTemplate.Computation (except_bind_ok except_map_ok)

/-! ## Texts -/

/-- An option as text. The value may have equals signs and colons. -/
inductive SpellsOption : String × String → List Char → Prop
  | assign {key : String} {value k v : List Char} (hkey : key ∈ optionKeys) (hproperty : key ≠ "property") (hcomma : ',' ∉ value)
    (htrim : trim value = value) (hk : Padded key.toList k) (hv : Padded value v) :
    SpellsOption (key, .ofList value) (k ++ '=' :: v)

/-- A type as text, after its colon. -/
inductive SpellsType : Option String → List Char → Prop
  | none : SpellsType none []
  | some {type raw : List Char} (hne : type ≠ []) (hcomma : ',' ∉ type) (htrim : trim type = type) (hraw : Padded type raw) :
    SpellsType (some (.ofList type)) (':' :: raw)

/-- The texts with a comma before each. -/
def separated (texts : List (List Char)) : List Char := texts.flatMap (',' :: ·)

/-- A placeholder as text, with blanks around its parts. -/
inductive Spells : Placeholder → List Char → Prop
  | parts {property raw type : List Char} {sqlType : Option String} {options : List (String × String)} {texts : List (List Char)}
    (hproperty : ∀ c ∈ property, isNamePart c = true) (hparen : property.head? ≠ some '(') (htrim : trim property = property)
    (hraw : Padded property raw) (htype : SpellsType sqlType type) (hoptions : List.Forall₂ SpellsOption options texts) :
    Spells ⟨.ofList property, sqlType, options⟩ (raw ++ (type ++ separated texts))

/-- An assignment to one of the keys. -/
def IsOption (text : List Char) : Prop := ∃ k v, text = k ++ '=' :: v ∧ '=' ∉ k ∧ String.ofList (trim k) ∈ optionKeys

variable {p : Placeholder} {content key : String} {options : List (String × String)} {cs text : List Char} {texts : List (List Char)}

/-! ## Options -/

theorem optionTexts_separated {head : List Char} (hhead : ',' ∉ head) (h : ∀ text ∈ texts, ',' ∉ text) :
    optionTexts (head ++ separated texts) = texts := by
  have hfields {first : List Char} {texts : List (List Char)} (h : ∀ text ∈ first :: texts, ',' ∉ text) :
      fieldsOn ',' (first ++ separated texts) = first :: texts := by
    induction texts generalizing first with
    | nil =>
      rw [separated, List.flatMap_nil, List.append_nil]
      exact fieldsOn_self (h first (by simp))
    | cons text texts ih =>
      rw [List.forall_mem_cons] at h
      rw [separated, List.flatMap_cons, List.cons_append, fieldsOn_append h.1]
      exact congrArg _ (ih h.2)
  rw [optionTexts_append hhead]
  cases texts with
  | nil => rfl
  | cons text texts => exact hfields h

theorem key_plain (h : key ∈ optionKeys) : '=' ∉ key.toList ∧ ',' ∉ key.toList ∧ trim key.toList = key.toList ∧ key ≠ "expression" := by
  revert h key
  decide +kernel

theorem SpellsOption.no_comma {o : String × String} (h : SpellsOption o text) : ',' ∉ text := by
  obtain ⟨hkey, -, hcomma, -, hk, hv⟩ := h
  rw [List.mem_append, List.mem_cons]
  rintro (hmem | hmem | hmem)
  · exact (hk.mem hmem).elim (by decide) (key_plain hkey).2.1
  · cases hmem
  · exact (hv.mem hmem).elim (by decide) hcomma

theorem forall_no_comma (h : List.Forall₂ SpellsOption options texts) : ∀ text ∈ texts, ',' ∉ text := by
  induction h with
  | nil => simp
  | cons hfirst hrest ih => exact List.forall_mem_cons.2 ⟨hfirst.no_comma, ih⟩

theorem SpellsOption.read {o : String × String} (h : SpellsOption o text) (content : String) :
    readOption content text = .ok (some o) := by
  obtain ⟨hkey, hproperty, -, htrim, hk, hv⟩ := h
  obtain ⟨hassign, -, htrimKey, hexpression⟩ := key_plain hkey
  rw [readOption, breakOn_append fun hmem => (hk.mem hmem).elim (by decide) hassign]
  simp only [hk.trim_eq htrimKey, hv.trim_eq htrim, String.ofList_toList]
  rw [if_neg hexpression, if_neg (not_not.2 hkey), if_neg hproperty]

theorem readOptions_spelled (h : List.Forall₂ SpellsOption options texts) (content : String) :
    readOptions content texts = .ok options := by
  induction h with
  | nil => rfl
  | cons hfirst hrest ih =>
    rw [readOptions, hfirst.read, ih]
    rfl

theorem readOption_ok_iff : (∃ o, readOption content text = .ok o) ↔ IsOption text := by
  constructor
  · rintro ⟨o, h⟩
    unfold readOption at h
    split at h
    · cases h
    · rename_i k v hbreak
      have hkey : String.ofList (trim k) ∈ optionKeys := by
        dsimp only at h
        split_ifs at h with hexpression hkey <;> exact hkey
      exact ⟨k, v, by simpa using eq_append_of_breakOn hbreak, notMem_of_breakOn hbreak, hkey⟩
  · rintro ⟨k, v, rfl, hassign, hkey⟩
    rw [readOption, breakOn_append hassign]
    dsimp only
    rw [if_neg (key_plain hkey).2.2.2, if_neg (not_not.2 hkey)]
    split
    · exact ⟨_, rfl⟩
    · exact ⟨_, rfl⟩

theorem readOptions_ok_iff : (∃ options, readOptions content texts = .ok options) ↔ ∀ text ∈ texts, IsOption text := by
  induction texts with
  | nil => exact iff_of_true ⟨[], rfl⟩ (by simp)
  | cons text texts ih =>
    rw [List.forall_mem_cons, ← @readOption_ok_iff content, ← ih]
    constructor
    · rintro ⟨options, h⟩
      obtain ⟨first, hfirst, h⟩ := except_bind_ok.1 h
      obtain ⟨rest, hrest, -⟩ := except_bind_ok.1 h
      exact ⟨⟨first, hfirst⟩, rest, hrest⟩
    · rintro ⟨⟨first, hfirst⟩, rest, hrest⟩
      exact ⟨_, except_bind_ok.2 ⟨first, hfirst, except_bind_ok.2 ⟨rest, hrest, rfl⟩⟩⟩

/-- The value of a key is the last one that is given for it. -/
theorem option?_eq_some_iff {value : String} :
    p.option? key = some value ↔ ∃ before after, p.options = before ++ (key, value) :: after ∧ key ∉ after.map Prod.fst := by
  have hnot {after : List (String × String)} : (∀ o ∈ after, (key != o.1) = true) ↔ key ∉ after.map Prod.fst := by
    simp only [List.mem_map, bne_iff_ne, ne_eq, not_exists, not_and]
    exact ⟨fun h o ho heq => h o ho heq.symm, fun h o ho heq => h o ho heq.symm⟩
  rw [option?, List.lookup_eq_some_iff]
  constructor
  · rintro ⟨after, before, heq, hafter⟩
    refine ⟨before.reverse, after.reverse, ?_, hnot.1 fun o ho => hafter o (List.mem_reverse.1 ho)⟩
    rw [← List.reverse_reverse p.options, heq]
    simp
  · rintro ⟨before, after, heq, hafter⟩
    refine ⟨after.reverse, before.reverse, by simp [heq], fun o ho => hnot.2 hafter o (List.mem_reverse.1 ho)⟩

/-! ## Types -/

theorem SpellsType.head {sqlType : Option String} {type : List Char} (h : SpellsType sqlType type) (texts : List (List Char)) :
    ∀ c ∈ (type ++ separated texts).head?, isNamePart c = false := by
  cases h with
  | none => cases texts <;> simp [separated, isNamePart]
  | some => simp [isNamePart]

theorem SpellsType.no_comma {sqlType : Option String} {type : List Char} (h : SpellsType sqlType type) : ',' ∉ type := by
  cases h with
  | none => simp
  | some hne hcomma htrim hraw => simpa using fun hmem => (hraw.mem hmem).elim (by decide) hcomma

theorem SpellsType.read {sqlType : Option String} {type : List Char} (h : SpellsType sqlType type) (texts : List (List Char)) :
    typeOf? (type ++ separated texts) = sqlType := by
  have hhead : ∀ c ∈ (separated texts).head?, (c != ',') = false := by cases texts <;> simp [separated]
  cases h with
  | none => cases texts <;> rfl
  | @some type raw hne hcomma htrim hraw =>
    have hpass : ∀ c ∈ raw, (c != ',') = true := fun c hc => bne_iff_ne.2 fun heq =>
      (hraw.mem hc).elim (by rw [heq]; decide) (heq ▸ hcomma)
    rw [List.cons_append, typeOf?, (run_split hpass hhead).1, hraw.trim_eq htrim]
    exact if_neg (by simpa using hne)

/-! ## Whole contents -/

/-- A content is accepted if it does not begin with a parenthesis and its options are options. -/
theorem parse_isOk_iff : (∃ p, parse content = .ok p) ↔
    (trimStart content.toList).head? ≠ some '(' ∧ ∀ text ∈ optionTexts content.toList, IsOption text := by
  have hblanks : ',' ∉ content.toList.takeWhile isBlank := fun hmem => by cases List.mem_takeWhile_imp hmem
  have htexts : optionTexts (trimStart content.toList) = optionTexts content.toList := by
    conv_rhs => rw [← List.takeWhile_append_dropWhile (p := isBlank) (l := content.toList), optionTexts_append hblanks]
    rfl
  rw [← htexts, ← @readOptions_ok_iff content, parse]
  split_ifs with hparen
  · refine iff_of_false ?_ fun h => h.1 hparen
    rintro ⟨p, h⟩
    cases h
  · constructor
    · rintro ⟨p, h⟩
      obtain ⟨options, hoptions, -⟩ := except_map_ok.1 h
      exact ⟨hparen, options, hoptions⟩
    · rintro ⟨-, options, hoptions⟩
      exact ⟨_, except_map_ok.2 ⟨options, hoptions, rfl⟩⟩

theorem parse_of_spells (h : Spells p cs) : parse (.ofList cs) = .ok p := by
  obtain @⟨property, raw, type, sqlType, options, texts, hproperty, hparen, htrim, hraw, htype, hoptions⟩ := h
  have hparts : ∀ c ∈ raw, isNamePart c = true := fun c hc => (hraw.mem hc).elim isNamePart_of_isBlank (hproperty c)
  have hhead := htype.head texts
  have hvisible : ∀ c ∈ (type ++ separated texts).head?, isBlank c = false := by
    intro c hc
    by_contra hblank
    have hpart := isNamePart_of_isBlank (Bool.of_not_eq_false hblank)
    rw [hhead c hc] at hpart
    cases hpart
  -- No part of the rest begins with a parenthesis, so that the property would have to.
  have hnot : (trimStart raw ++ (type ++ separated texts)).head? ≠ some '(' := by
    rw [List.head?_append, head?_trimStart_eq, hraw.trim_eq htrim]
    intro hopen
    rcases Option.or_eq_some_iff.1 hopen with hopen | ⟨-, hopen⟩
    · exact hparen hopen
    · cases hhead '(' hopen
  have hstart : ∀ c ∈ trimStart raw, isNamePart c = true := fun c hc => hparts c ((List.dropWhile_suffix isBlank).subset hc)
  have hcomma : ',' ∉ trimStart raw ++ type := by
    rw [List.mem_append, not_or]
    exact ⟨fun hmem => absurd (hstart _ hmem) (by decide), htype.no_comma⟩
  have htexts : optionTexts (trimStart raw ++ (type ++ separated texts)) = texts := by
    rw [← List.append_assoc]
    exact optionTexts_separated hcomma (forall_no_comma hoptions)
  obtain ⟨htake, hdrop⟩ := run_split hstart hhead
  rw [parse, String.toList_ofList, trimStart_append_word hvisible]
  dsimp only
  rw [if_neg hnot, htexts, readOptions_spelled hoptions, htake, hdrop, htype.read, trim_trimStart, hraw.trim_eq htrim]
  rfl

/-- A placeholder is read from its text, the last option of a key counts, and contents are rejected exactly if they begin with a
parenthesis or one of their options is none. -/
theorem placeholder_round_trip :
    (∀ p cs, Spells p cs → parse (.ofList cs) = .ok p) ∧
      (∀ (p : Placeholder) key value, p.option? key = some value ↔
        ∃ before after, p.options = before ++ (key, value) :: after ∧ key ∉ after.map Prod.fst) ∧
      ∀ head texts, ',' ∉ head → (∀ text ∈ texts, ',' ∉ text) →
        ((∃ e, parse (.ofList (head ++ separated texts)) = .error e) ↔
          (trimStart head).head? = some '(' ∨ ∃ text ∈ texts, ¬ IsOption text) := by
  refine ⟨fun p cs => parse_of_spells, fun p key value => option?_eq_some_iff, fun head texts hhead htexts => ?_⟩
  have herror {x : Except CompileError Placeholder} : (∃ e, x = .error e) ↔ ¬ ∃ p, x = .ok p := by cases x <;> simp
  have hcommas : ∀ c ∈ (separated texts).head?, c = ',' := by cases texts <;> simp [separated]
  have hparen : (trimStart (head ++ separated texts)).head? = some '(' ↔ (trimStart head).head? = some '(' := by
    rw [trimStart_append_word fun c hc => hcommas c hc ▸ rfl, List.head?_append, Option.or_eq_some_iff]
    refine or_iff_left ?_
    rintro ⟨-, hopen⟩
    cases hcommas '(' hopen
  rw [herror, parse_isOk_iff, String.toList_ofList, optionTexts_separated hhead htexts, not_and_or, not_not, hparen]
  simp only [not_forall, exists_prop]

/-- The second of two scales counts, and a value may have an equals sign. -/
theorem parse_scales :
    ∃ p, p = ⟨"price", some "NUMERIC", [("numericScale", "1"), ("typeHandler", "a=b:c"), ("numericScale", "2")]⟩ ∧
      parse " price : NUMERIC , numericScale = 1,typeHandler=a=b:c, numericScale=2 " = .ok p ∧
      p.option? "numericScale" = some "2" ∧
      (∃ e, parse "price,mode,numericScale=2" = .error e) := by
  have hmem {key : String} (h : decide (key ∈ optionKeys) = true) : key ∈ optionKeys := of_decide_eq_true h
  have hfirst : SpellsOption ("numericScale", "1") " numericScale = 1".toList :=
    .assign (hmem rfl) (by decide) (by decide) rfl (padded_of_all [' '] [' '] rfl rfl) (padded_of_all [' '] [] rfl rfl)
  have hsecond : SpellsOption ("typeHandler", "a=b:c") "typeHandler=a=b:c".toList :=
    .assign (hmem rfl) (by decide) (by decide) rfl (padded_of_all [] [] rfl rfl) (padded_of_all [] [] rfl rfl)
  have hthird : SpellsOption ("numericScale", "2") " numericScale=2 ".toList :=
    .assign (hmem rfl) (by decide) (by decide) rfl (padded_of_all [' '] [] rfl rfl) (padded_of_all [] [' '] rfl rfl)
  obtain ⟨hparse, hlast, hrejects⟩ := placeholder_round_trip
  refine ⟨_, rfl, ?_, ?_, ?_⟩
  · refine hparse _ " price : NUMERIC , numericScale = 1,typeHandler=a=b:c, numericScale=2 ".toList ?_
    have hprice : ∀ c ∈ "price".toList, isNamePart c = true := List.all_eq_true.1 rfl
    exact .parts hprice (by decide) rfl (padded_of_all [' '] [' '] rfl rfl)
      (.some (by simp) (by decide) rfl (padded_of_all [' '] [' '] rfl rfl)) (.cons hfirst (.cons hsecond (.cons hthird .nil)))
  · exact (hlast _ _ _).2 ⟨[("numericScale", "1"), ("typeHandler", "a=b:c")], [], rfl, by simp⟩
  · refine (hrejects "price".toList ["mode".toList, "numericScale=2".toList] (by decide) (by decide)).2 (.inr ⟨"mode".toList, by simp, ?_⟩)
    rintro ⟨k, v, heq, -, -⟩
    have hassign : '=' ∈ "mode".toList := by rw [heq]; simp
    revert hassign
    decide

end SqlTemplate.Placeholder
