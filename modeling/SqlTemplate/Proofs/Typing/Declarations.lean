import Mathlib.Data.List.Induction
import SqlTemplate.Typing.Aliases

/-! # Declared types

Records are registered one after the other, each as soon as its properties are known. A property keeps the type that its alias has
then, so that a record declared under the name of an enumeration or of a built-in type comes too late for the records before it.
-/

namespace SqlTemplate

/-- A record of this name stands in the type, at any depth. -/
inductive ValueType.Contains : ValueType → String → Prop
  | self (name : String) (properties : List (String × ValueType)) : Contains (.record name properties) name
  | property {name other : String} {properties : List (String × ValueType)} {property : String × ValueType} :
    property ∈ properties → Contains property.2 other → Contains (.record name properties) other

namespace Aliases

variable {a b c : Aliases}

/-- The name that an alias is looked up by. -/
def key (text : String) : String := Text.asciiLower (Text.trimString text)

/-- The aliases of the declared enumerations. -/
def ofEnums (enums : Dict (List String)) : Aliases :=
  enums.foldl (fun a (name, variants) => a.register (.enumeration ⟨name, variants⟩)) []

/-- Registering the records in order, each with what its properties stand for by then. -/
inductive Registers : Aliases → List RecordDeclaration → Aliases → Prop
  | nil (a : Aliases) : Registers a [] a
  | cons {a b : Aliases} {name : String} {properties : Dict String} {ps : List (String × ValueType)}
    {records : List RecordDeclaration} :
    a.resolveAll? properties = some ps → Registers (a.register (.record name ps)) records b →
      Registers a ((name, properties) :: records) b

theorem get?_register (a : Aliases) (t : ValueType) (k : String) :
    Dict.get? (a.register t) k = if k = Text.asciiLower t.name then some t else Dict.get? a k :=
  Dict.get?_insert _ _ _ _

theorem resolve?_eq (a : Aliases) (text : String) :
    a.resolve? text = (Dict.get? a (key text)).or ((BuiltinType.read? text).map .builtin) := by
  cases h : Dict.get? a (Text.asciiLower (Text.trimString text)) <;> simp [resolve?, key, h]

/-- An alias stands for what is declared or for a built-in type. -/
theorem of_resolve? {text : String} {t : ValueType} (h : a.resolve? text = some t) :
    Dict.get? a (key text) = some t ∨ ∃ s, t = .builtin s := by
  rw [resolve?_eq, Option.or_eq_some_iff, Option.map_eq_some_iff] at h
  exact h.imp_right fun ⟨_, s, _, hs⟩ => ⟨s, hs.symm⟩

theorem resolveAll?_cons {name text : String} {properties : List (String × String)} {ps : List (String × ValueType)} :
    a.resolveAll? ((name, text) :: properties) = some ps ↔
      ∃ t, a.resolve? text = some t ∧ ∃ rest, a.resolveAll? properties = some rest ∧ (name, t) :: rest = ps := by
  simp only [resolveAll?, Option.bind_eq_bind, Option.bind_eq_some_iff, Option.some.injEq]

theorem lookup_resolveAll? {properties : List (String × String)} {ps : List (String × ValueType)}
    (h : a.resolveAll? properties = some ps) {p text : String} (hp : properties.lookup p = some text) :
    ∃ t, a.resolve? text = some t ∧ ps.lookup p = some t := by
  induction properties generalizing ps with
  | nil => cases hp
  | cons property properties ih =>
    obtain ⟨name, other⟩ := property
    obtain ⟨t, ht, rest, hrest, rfl⟩ := resolveAll?_cons.1 h
    rw [List.lookup_cons] at hp ⊢
    by_cases hname : p = name
    · simp_all
    · rw [beq_eq_false_iff_ne.2 hname] at hp ⊢
      exact ih hrest hp

theorem resolve?_of_mem {properties : List (String × String)} {ps : List (String × ValueType)}
    (h : a.resolveAll? properties = some ps) {property : String × ValueType} (hp : property ∈ ps) :
    ∃ text, a.resolve? text = some property.2 := by
  induction properties generalizing ps with
  | nil =>
    cases h
    cases hp
  | cons entry properties ih =>
    obtain ⟨name, text⟩ := entry
    obtain ⟨t, ht, rest, hrest, rfl⟩ := resolveAll?_cons.1 h
    obtain rfl | hp := List.mem_cons.1 hp
    · exact ⟨text, ht⟩
    · exact ih hrest hp

/-- All records in the types that aliases stand for have a name with the property. -/
def Within (p : String → Prop) (a : Aliases) : Prop := ∀ k t, Dict.get? a k = some t → ∀ name, t.Contains name → p name

theorem Within.resolve? {p : String → Prop} (h : a.Within p) {text : String} {t : ValueType} (ht : a.resolve? text = some t)
    {name : String} (hname : t.Contains name) : p name := by
  obtain hget | ⟨s, rfl⟩ := of_resolve? ht
  · exact h _ _ hget name hname
  · cases hname

namespace Registers

theorem append {ds es : List RecordDeclaration} (h : Registers a ds b) (h' : Registers b es c) : Registers a (ds ++ es) c := by
  induction h with
  | nil => exact h'
  | cons hps _ ih => exact .cons hps (ih h')

theorem split {before after : List RecordDeclaration} {name : String} {properties : Dict String}
    (h : Registers a (before ++ (name, properties) :: after) b) :
    ∃ c ps, Registers a before c ∧ c.resolveAll? properties = some ps ∧ Registers (c.register (.record name ps)) after b := by
  induction before generalizing a with
  | nil =>
    cases h with
    | cons hps hrest => exact ⟨a, _, .nil a, hps, hrest⟩
  | cons d before ih =>
    cases h with
    | cons hps hrest =>
      obtain ⟨c, ps, hbefore, hc, hafter⟩ := ih hrest
      exact ⟨c, ps, .cons hps hbefore, hc, hafter⟩

/-- Other names keep their meaning. -/
theorem get?_eq {ds : List RecordDeclaration} (h : Registers a ds b) {k : String} (hk : ∀ d ∈ ds, Text.asciiLower d.1 ≠ k) :
    Dict.get? b k = Dict.get? a k := by
  induction h with
  | nil => rfl
  | cons _ _ ih =>
    rw [List.forall_mem_cons] at hk
    rw [ih hk.2, get?_register]
    exact if_neg (Ne.symm hk.1)

/-- The records in a type are those that were registered before. -/
theorem within {ds : List RecordDeclaration} {p : String → Prop} (h : Registers a ds b) (ha : a.Within p)
    (hds : ∀ d ∈ ds, p d.1) : b.Within p := by
  induction h with
  | nil => exact ha
  | @cons a b name properties ps records hps _ ih =>
    rw [List.forall_mem_cons] at hds
    refine ih (fun k t ht => ?_) hds.2
    rw [get?_register] at ht
    split at ht
    · cases ht
      rintro other (_ | ⟨hmem, hother⟩)
      · exact hds.1
      · obtain ⟨text, htext⟩ := resolve?_of_mem hps hmem
        exact ha.resolve? htext hother
    · exact ha k t ht

theorem get?_record {ds : List RecordDeclaration} (h : Registers a ds b) {d : RecordDeclaration} (hd : d ∈ ds) :
    ∃ name ps, Dict.get? b (Text.asciiLower d.1) = some (.record name ps) := by
  induction h generalizing d with
  | nil => cases hd
  | @cons a b name properties ps records _ hrest ih =>
    by_cases hlater : ∃ other ∈ records, Text.asciiLower other.1 = Text.asciiLower d.1
    · obtain ⟨other, hmem, hsame⟩ := hlater
      rw [← hsame]
      exact ih hmem
    · have hnone : ∀ other ∈ records, Text.asciiLower other.1 ≠ Text.asciiLower d.1 := fun other hmem hsame =>
        hlater ⟨other, hmem, hsame⟩
      obtain rfl | hmem := List.mem_cons.1 hd
      · exact ⟨name, ps, by rw [hrest.get?_eq hnone, get?_register]; exact if_pos rfl⟩
      · exact absurd rfl (hnone d hmem)

end Registers

theorem pass_registers (a : Aliases) (records : List RecordDeclaration) :
    ∃ order, Registers a order (pass a records).1 ∧ (order ++ (pass a records).2).Perm records := by
  induction records generalizing a with
  | nil => exact ⟨[], .nil a, .refl _⟩
  | cons record records ih =>
    obtain ⟨name, properties⟩ := record
    rw [pass]
    cases hps : a.resolveAll? properties with
    | some ps =>
      obtain ⟨order, hregisters, hperm⟩ := ih (a.register (.record name ps))
      exact ⟨_, .cons hps hregisters, hperm.cons _⟩
    | none =>
      obtain ⟨order, hregisters, hperm⟩ := ih a
      exact ⟨order, hregisters, List.perm_middle.trans (hperm.cons _)⟩

theorem registerRecords_ok {records : List RecordDeclaration} (h : registerRecords a records = .ok b) :
    ∃ order, order.Perm records ∧ Registers a order b := by
  induction a, records using registerRecords.induct with
  | case1 a records hempty =>
    rw [registerRecords, if_pos hempty] at h
    cases h
    rw [List.isEmpty_iff.1 hempty]
    exact ⟨[], .refl _, .nil _⟩
  | case2 a records hne c rest hpass hlt ih =>
    rw [registerRecords, if_neg hne, hpass] at h
    dsimp only at h
    rw [if_pos hlt] at h
    obtain ⟨late, hlate, hregisters'⟩ := ih h
    obtain ⟨early, hregisters, hperm⟩ := pass_registers a records
    rw [hpass] at hregisters hperm
    exact ⟨early ++ late, (hlate.append_left early).trans hperm, hregisters.append hregisters'⟩
  | case3 a records hne b' rest hpass hlt =>
    rw [registerRecords, if_neg hne, hpass] at h
    dsimp only at h
    rw [if_neg hlt] at h
    cases h

theorem ofEnums_isEnumeration {enums : Dict (List String)} {k : String} {t : ValueType} (h : Dict.get? (ofEnums enums) k = some t) :
    t.isEnumeration = true := by
  induction enums using List.reverseRecOn with
  | nil => cases h
  | append_singleton enums declaration ih =>
    rw [ofEnums, List.foldl_append, List.foldl_cons, List.foldl_nil, get?_register] at h
    split at h
    · cases h
      rfl
    · exact ih h

/-- Enumerations and built-in types contain no record. -/
theorem not_record_of_ofEnums {enums : Dict (List String)} {text name : String} {ps : List (String × ValueType)} :
    (ofEnums enums).resolve? text ≠ some (.record name ps) := by
  intro h
  obtain hget | ⟨s, hs⟩ := of_resolve? h
  · exact Bool.false_ne_true (ofEnums_isEnumeration hget)
  · cases hs

theorem ofEnums_within (enums : Dict (List String)) (p : String → Prop) : (ofEnums enums).Within p := by
  intro k t ht name hname
  have henum := ofEnums_isEnumeration ht
  cases hname with
  | self => exact absurd henum Bool.false_ne_true
  | property => exact absurd henum Bool.false_ne_true

/-- An alias that stood for no record stands for something else once a record is registered under it, and only then. -/
theorem Registers.resolve?_eq_iff {ds : List RecordDeclaration} (h : Registers a ds b) {text : String}
    (hnew : ∀ d ∈ ds, Text.asciiLower d.1 = key text → ∀ name ps, a.resolve? text ≠ some (.record name ps)) :
    a.resolve? text = b.resolve? text ↔ ∀ d ∈ ds, Text.asciiLower d.1 ≠ key text := by
  refine ⟨fun heq d hd hkey => ?_, fun hds => ?_⟩
  · obtain ⟨name, ps, hrecord⟩ := h.get?_record hd
    refine hnew d hd hkey name ps ?_
    rw [heq, resolve?_eq, ← hkey, hrecord]
    rfl
  · rw [resolve?_eq, resolve?_eq, h.get?_eq hds]

/-- Every declared record stands under its name and does not contain itself. A property has the type that its alias stands for at
last unless a record of this name was not registered before, which can only be if the alias stands for an enumeration or a built-in
type as well. -/
theorem properties_of_declarations {enums : Dict (List String)} {records : Dict (Dict String)} {a : Aliases}
    (h : ofDeclarations enums records = .ok a) (hnames : (records.map fun d => Text.asciiLower d.1).Nodup) :
    ∃ order, order.Perm records ∧ Registers (ofEnums enums) order a ∧
      ∀ before name properties after, order = before ++ (name, properties) :: after →
        ∃ ps, (∀ text, key text = Text.asciiLower name → a.resolve? text = some (.record name ps)) ∧
          (∀ property ∈ ps, ¬ property.2.Contains name) ∧
          ∀ p text, Dict.get? properties p = some text →
            (ps.lookup p = a.resolve? text ↔ ∀ d ∈ (name, properties) :: after, Text.asciiLower d.1 ≠ key text) ∧
              ((ofEnums enums).resolve? text = none → ps.lookup p = a.resolve? text) := by
  change registerRecords (ofEnums enums) records = .ok a at h
  obtain ⟨order, hperm, hregisters⟩ := registerRecords_ok h
  refine ⟨order, hperm, hregisters, ?_⟩
  rintro before name properties after rfl
  obtain ⟨c, ps, hbefore, hps, hafter⟩ := hregisters.split
  -- The record sees the aliases as they are at its turn, and only it and the records after it change them from then on.
  have hlate : Registers c ((name, properties) :: after) a := .cons hps hafter
  have hdistinct : ((before ++ (name, properties) :: after).map fun d => Text.asciiLower d.1).Nodup :=
    (hperm.map _).nodup_iff.2 hnames
  rw [List.map_append, List.nodup_append] at hdistinct
  obtain ⟨-, hlast, hapart⟩ := hdistinct
  have hself : Text.asciiLower name ∉ after.map fun d => Text.asciiLower d.1 := (List.nodup_cons.1 hlast).1
  have hapart {d e : RecordDeclaration} (hd : d ∈ before) (he : e ∈ (name, properties) :: after) :
      Text.asciiLower d.1 ≠ Text.asciiLower e.1 :=
    hapart _ (List.mem_map_of_mem hd) _ (List.mem_map_of_mem he)
  refine ⟨ps, fun text htext => ?_, fun property hproperty hcontains => ?_, fun p text hp => ?_⟩
  · have hget : Dict.get? a (key text) = some (.record name ps) := by
      rw [hafter.get?_eq fun d hd heq => hself (List.mem_map.2 ⟨d, hd, heq.trans htext⟩), get?_register]
      exact if_pos htext
    rw [resolve?_eq, hget]
    rfl
  · -- What a property contains was registered before, and no record before has the name.
    obtain ⟨text, htext⟩ := resolve?_of_mem hps hproperty
    obtain ⟨d, hd, hname⟩ := (hbefore.within (ofEnums_within enums (· ∈ before.map (·.1)))
      fun d hd => List.mem_map_of_mem hd).resolve? htext hcontains |> List.mem_map.1
    exact hapart hd List.mem_cons_self (by rw [hname])
  · obtain ⟨t, ht, hlookup⟩ := lookup_resolveAll? hps hp
    -- Up to here no record has taken the key, so that only an enumeration or a built-in type can stand under it.
    have hstart {d : RecordDeclaration} (hd : d ∈ (name, properties) :: after) (hkey : Text.asciiLower d.1 = key text) :
        c.resolve? text = (ofEnums enums).resolve? text := by
      rw [resolve?_eq, resolve?_eq, hbefore.get?_eq fun e he heq => hapart he hd (heq.trans hkey.symm)]
    have hiff : ps.lookup p = a.resolve? text ↔ ∀ d ∈ (name, properties) :: after, Text.asciiLower d.1 ≠ key text := by
      rw [hlookup, ← ht]
      refine hlate.resolve?_eq_iff fun d hd hkey other qs => ?_
      rw [hstart hd hkey]
      exact not_record_of_ofEnums
    refine ⟨hiff, fun hnone => hiff.2 fun d hd hkey => ?_⟩
    rw [← hstart hd hkey, ht] at hnone
    cases hnone

/-- A record may be declared before those that its properties name. -/
theorem properties_of_declarations_owner :
    ∃ enums records a ps, enums = [("Color", ["RED"])] ∧
      records = [("Account", [("owner", "User")]), ("User", [("id", "long"), ("shade", " COLOR")])] ∧
      ofDeclarations enums records = .ok a ∧ (records.map fun d => Text.asciiLower d.1).Nodup ∧
      a.resolve? "Account" = some (.record "Account" ps) ∧ ps.lookup "owner" = a.resolve? "User" := by
  have hdeclared : ofDeclarations [("Color", ["RED"])]
      [("Account", [("owner", "User")]), ("User", [("id", "long"), ("shade", " COLOR")])] =
      .ok [
        ("account", .record "Account"
          [("owner", .record "User" [("id", .builtin .long), ("shade", .enumeration ⟨"Color", ["RED"]⟩)])]),
        ("color", .enumeration ⟨"Color", ["RED"]⟩),
        ("user", .record "User" [("id", .builtin .long), ("shade", .enumeration ⟨"Color", ["RED"]⟩)])] := by
    rw [ofDeclarations, registerRecords]
    decide +kernel
  have hnames : (([("Account", [("owner", "User")]), ("User", [("id", "long"), ("shade", " COLOR")])] :
      Dict (Dict String)).map fun d => Text.asciiLower d.1).Nodup := by
    decide +kernel
  obtain ⟨order, hperm, -, hmeans⟩ := properties_of_declarations hdeclared hnames
  obtain ⟨before, after, rfl⟩ := List.append_of_mem (hperm.mem_iff.2 List.mem_cons_self)
  obtain ⟨ps, hself, -, hproperties⟩ := hmeans before "Account" _ after rfl
  exact ⟨_, _, _, ps, rfl, rfl, hdeclared, hnames, hself "Account" (by decide +kernel),
    (hproperties "owner" "User" rfl).2 (by decide +kernel)⟩

/-- A record named like a built-in type is not seen by a record that is registered before it. -/
theorem property_before_declaration :
    ∃ records a ps, records = [("Account", [("on", "Date")]), ("Date", [("day", "int")])] ∧
      ofDeclarations [] records = .ok a ∧
      a.resolve? "Account" = some (.record "Account" ps) ∧ ps.lookup "on" = some (.builtin .date) ∧
      a.resolve? "Date" = some (.record "Date" [("day", .builtin .integer)]) := by
  refine ⟨_, [("account", .record "Account" [("on", .builtin .date)]), ("date", .record "Date" [("day", .builtin .integer)])],
    [("on", .builtin .date)], rfl, ?_, by decide +kernel, rfl, by decide +kernel⟩
  rw [ofDeclarations, registerRecords]
  decide +kernel

end Aliases

end SqlTemplate
