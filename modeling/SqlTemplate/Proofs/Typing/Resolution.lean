import Mathlib.Data.Fintype.Card
import Mathlib.Data.Set.Finite.Basic
import Mathlib.Logic.Relation
import SqlTemplate.Proofs.Dict
import SqlTemplate.Proofs.Typing.Declarations

/-! # Which records can be resolved

The passes over the declared records end, since each one but the last leaves fewer records than it began with. They register exactly
the records from which no cycle and no unknown alias can be reached, and the error names the others.
-/

namespace SqlTemplate

open Relation

/-- Where everything in a list is stuck by itself or leads to something in the list, it leads to something that is stuck by itself or
to a cycle. -/
theorem exists_stuck_or_cycle {α : Type} {r : α → α → Prop} {stuck : α → Prop} {as : List α}
    (h : ∀ a ∈ as, stuck a ∨ ∃ b ∈ as, r a b) {a : α} (ha : a ∈ as) :
    ∃ b, ReflTransGen r a b ∧ (stuck b ∨ TransGen r b b) := by
  by_contra hnone
  -- Otherwise what is reached from `a` inside the list goes on without end, and a finite set has room for no such path.
  let next : {x // x ∈ as} → {x // x ∈ as} → Prop := fun x y => ReflTransGen r a y ∧ r y x
  have hnext {x y : {x // x ∈ as}} (hxy : TransGen next x y) : ReflTransGen r a y ∧ TransGen r y x := by
    induction hxy with
    | single hxy => exact ⟨hxy.1, .single hxy.2⟩
    | tail _ hyz ih => exact ⟨hyz.1, .head hyz.2 ih.2⟩
  have hfinite : Finite {x // x ∈ as} := as.finite_toSet.to_subtype
  have hirrefl : Std.Irrefl (TransGen next) := ⟨fun x hx => hnone ⟨x, (hnext hx).1, .inr (hnext hx).2⟩⟩
  have hwf : WellFounded (TransGen next) := Finite.wellFounded_of_trans_of_irrefl _
  have hend (x : {x // x ∈ as}) : ¬ ReflTransGen r a x := by
    induction x using hwf.induction with
    | _ x ih =>
      intro hreach
      rcases h x x.2 with hstuck | ⟨y, hy, hstep⟩
      · exact hnone ⟨x, hreach, .inl hstuck⟩
      · exact ih ⟨y, hy⟩ (.single ⟨hreach, hstep⟩) (hreach.tail hstep)
  exact hend ⟨a, ha⟩ .refl

namespace Aliases

/-! ## Passes -/

/-- The passes over the records that are left, their number and what they come to. -/
inductive Passes : Aliases → List RecordDeclaration → Nat → Except (List String) Aliases → Prop
  | done (a : Aliases) : Passes a [] 0 (.ok a)
  | stuck {a : Aliases} {records : List RecordDeclaration} (hne : records ≠ [])
    (hall : (pass a records).2.length = records.length) : Passes a records 1 (.error ((pass a records).2.map (·.1)))
  | next {a : Aliases} {records : List RecordDeclaration} {n : Nat} {result : Except (List String) Aliases}
    (hfewer : (pass a records).2.length < records.length) (hmore : Passes (pass a records).1 (pass a records).2 n result) :
    Passes a records (n + 1) result

theorem pass_sublist (a : Aliases) (records : List RecordDeclaration) : (pass a records).2.Sublist records := by
  induction records generalizing a with
  | nil => exact .slnil
  | cons d records ih =>
    obtain ⟨name, properties⟩ := d
    rw [pass]
    split
    · exact (ih _).cons _
    · exact (ih a).cons_cons _

/-- The passes end after at most one for each record. -/
theorem passes_registerRecords (a : Aliases) (records : List RecordDeclaration) :
    ∃ n ≤ records.length, Passes a records n (registerRecords a records) := by
  induction a, records using registerRecords.induct with
  | case1 a records hempty =>
    rw [registerRecords, if_pos hempty, List.isEmpty_iff.1 hempty]
    exact ⟨0, le_rfl, .done a⟩
  | case2 a records hne b rest hpass hfewer ih =>
    obtain ⟨n, hn, hmore⟩ := ih
    rw [registerRecords, if_neg hne, hpass]
    dsimp only
    rw [if_pos hfewer]
    refine ⟨n + 1, by omega, .next (by rwa [hpass]) (by rwa [hpass])⟩
  | case3 a records hne b rest hpass hfewer =>
    have hle := (pass_sublist a records).length_le
    rw [hpass] at hle
    rw [registerRecords, if_neg hne, hpass]
    dsimp only
    rw [if_neg hfewer]
    rw [List.isEmpty_iff] at hne
    have hpos := List.length_pos_iff.2 hne
    have hstuck : Passes a records 1 (.error ((pass a records).2.map (·.1))) :=
      .stuck hne (by rw [hpass]; exact le_antisymm hle (not_lt.1 hfewer))
    rw [hpass] at hstuck
    exact ⟨1, hpos, hstuck⟩

variable {a b : Aliases}

theorem isSome_resolveAll? {properties : List (String × String)} :
    (a.resolveAll? properties).isSome ↔ ∀ property ∈ properties, (a.resolve? property.2).isSome := by
  induction properties with
  | nil => simp [resolveAll?]
  | cons property properties ih =>
    obtain ⟨name, text⟩ := property
    simp only [Option.isSome_iff_exists, resolveAll?_cons, List.forall_mem_cons] at ih ⊢
    rw [← ih]
    constructor
    · rintro ⟨_, t, ht, rest, hrest, -⟩
      exact ⟨⟨t, ht⟩, rest, hrest⟩
    · rintro ⟨⟨t, ht⟩, rest, hrest⟩
      exact ⟨_, t, ht, rest, hrest, rfl⟩

/-- A pass that leaves all records has changed nothing and has met no record whose properties are known. -/
theorem pass_stuck {records : List RecordDeclaration} (h : (pass a records).2.length = records.length) :
    pass a records = (a, records) ∧ ∀ d ∈ records, a.resolveAll? d.2 = none := by
  induction records with
  | nil => exact ⟨rfl, List.forall_mem_nil _⟩
  | cons d records ih =>
    obtain ⟨name, properties⟩ := d
    rw [pass] at h ⊢
    cases hps : a.resolveAll? properties with
    | some ps =>
      rw [hps, List.length_cons] at h
      have hle := (pass_sublist (a.register (.record name ps)) records).length_le
      dsimp only at h
      omega
    | none =>
      rw [hps] at h
      obtain ⟨hpass, hnone⟩ := ih (Nat.succ.inj h)
      exact ⟨by rw [hpass], List.forall_mem_cons.2 ⟨hps, hnone⟩⟩

/-- Some of the records are registered in an order in which each finds its properties. The others, if there are any, find theirs
not even at the end. -/
theorem Passes.outcome {records : List RecordDeclaration} {n : Nat} {result : Except (List String) Aliases}
    (h : Passes a records n result) :
    ∃ order b rest, Registers a order b ∧ (order ++ rest).Perm records ∧ rest.Sublist records ∧
      (∀ d ∈ rest, b.resolveAll? d.2 = none) ∧ result = if rest = [] then .ok b else .error (rest.map (·.1)) := by
  induction h with
  | done a => exact ⟨[], a, [], .nil a, .refl _, .slnil, List.forall_mem_nil _, rfl⟩
  | @stuck a records hne hall =>
    obtain ⟨hpass, hnone⟩ := pass_stuck hall
    exact ⟨[], a, records, .nil a, .refl _, .refl _, hnone, by rw [hpass, if_neg hne]⟩
  | @next a records n result _ _ ih =>
    obtain ⟨late, b, rest, hlate, hperm, hsub, hnone, hresult⟩ := ih
    obtain ⟨early, hearly, hall⟩ := pass_registers a records
    refine ⟨early ++ late, b, rest, hearly.append hlate, ?_, hsub.trans (pass_sublist a records), hnone, hresult⟩
    rw [List.append_assoc]
    exact (hperm.append_left early).trans hall

/-! ## References -/

/-- The alias is this name, up to blanks around it and to the case of ASCII letters. -/
def Names (text name : String) : Prop := key text = Text.asciiLower name

/-- The alias is that of a built-in type, of an enumeration or of one of the records. -/
def Known (enums : Dict (List String)) (records : List RecordDeclaration) (text : String) : Prop :=
  (BuiltinType.read? text).isSome ∨ (∃ e ∈ enums, Names text e.1) ∨ ∃ d ∈ records, Names text d.1

/-- A property of the first record has the alias of the second, which is declared. -/
def Refers (records : List RecordDeclaration) (d e : RecordDeclaration) : Prop :=
  e ∈ records ∧ ∃ property ∈ d.2, Names property.2 e.1

/-- A property of the record has an alias that stands for nothing. -/
def HasUnknown (enums : Dict (List String)) (records : List RecordDeclaration) (d : RecordDeclaration) : Prop :=
  ∃ property ∈ d.2, ¬ Known enums records property.2

/-- Going from record to record by their properties, one comes from this one to an unknown alias or to a cycle. -/
def Blamed (enums : Dict (List String)) (records : List RecordDeclaration) (d : RecordDeclaration) : Prop :=
  ∃ e, ReflTransGen (Refers records) d e ∧ (HasUnknown enums records e ∨ TransGen (Refers records) e e)

/-- The names of different declarations are different aliases, and none of them is that of a built-in type. -/
structure WellNamed (names : List String) : Prop where
  distinct : (names.map Text.asciiLower).Nodup
  trimmed : ∀ name ∈ names, Text.trimString name = name
  free : ∀ name ∈ names, BuiltinType.read? name = none

variable {enums : Dict (List String)} {records done : List RecordDeclaration} {d e : RecordDeclaration}

theorem mem_of_reaches (hd : d ∈ records) (h : ReflTransGen (Refers records) d e) : e ∈ records := by
  cases h with
  | refl => exact hd
  | tail _ hlast => exact hlast.1

/-- What is the matter with a record is the matter with itself or with one that it refers to. -/
theorem Blamed.cases (h : Blamed enums records d) :
    HasUnknown enums records d ∨ ∃ e, Refers records d e ∧ Blamed enums records e := by
  obtain ⟨f, hreach, hmatter⟩ := h
  rcases ReflTransGen.cases_head hreach with rfl | ⟨e, hde, hef⟩
  · rcases hmatter with hunknown | hcycle
    · exact .inl hunknown
    · obtain ⟨e, hde, hed⟩ := TransGen.head'_iff.1 hcycle
      exact .inr ⟨e, hde, d, hed, .inr hcycle⟩
  · exact .inr ⟨e, hde, f, hef, hmatter⟩

/-- A name that is no built-in alias is none in another spelling either. -/
theorem WellNamed.read?_eq_none {names : List String} (h : WellNamed names) {text name : String} (hname : name ∈ names)
    (htext : Names text name) : BuiltinType.read? text = none := by
  have hkey : key text = key name := by rw [htext, key, h.trimmed name hname]
  rw [← h.free name hname]
  change BuiltinType.ofAlias? (.ofList ((key text).toList.dropWhile (· == '_'))) =
    BuiltinType.ofAlias? (.ofList ((key name).toList.dropWhile (· == '_')))
  rw [hkey]

/-! ## What is registered -/

/-- The aliases that can be resolved are the built-in ones, those of the enumerations and those of these records. -/
def Stands (enums : Dict (List String)) (records : List RecordDeclaration) (a : Aliases) : Prop :=
  ∀ text, (a.resolve? text).isSome ↔ Known enums records text

theorem isSome_get?_ofEnums {k : String} :
    (Dict.get? (ofEnums enums) k).isSome ↔ ∃ e ∈ enums, k = Text.asciiLower e.1 := by
  induction enums using List.reverseRecOn with
  | nil => simp [ofEnums, Dict.get?]
  | append_singleton enums declaration ih =>
    rw [ofEnums, List.foldl_append, List.foldl_cons, List.foldl_nil, get?_register, ← ofEnums]
    split_ifs with hk
    · exact ⟨fun _ => ⟨declaration, by simp, hk⟩, fun _ => rfl⟩
    · rw [ih]
      simp only [List.mem_append, List.mem_singleton, or_and_right, exists_or, exists_eq_left]
      exact ⟨.inl, fun h => h.resolve_right hk⟩

theorem isSome_resolve? {text : String} :
    (a.resolve? text).isSome ↔ (BuiltinType.read? text).isSome ∨ (Dict.get? a (key text)).isSome := by
  rw [resolve?_eq, Option.isSome_or, Option.isSome_map, Bool.or_eq_true, or_comm]

theorem stands_ofEnums : Stands enums [] (ofEnums enums) := by
  intro text
  rw [isSome_resolve?, isSome_get?_ofEnums]
  simp [Known, Names]

theorem Stands.register (h : Stands enums done a) (name : String) (properties : Dict String) (ps : List (String × ValueType)) :
    Stands enums (done ++ [(name, properties)]) (a.register (.record name ps)) := by
  intro text
  have hadd : Known enums (done ++ [(name, properties)]) text ↔ Known enums done text ∨ Names text name := by
    simp only [Known, List.mem_append, List.mem_singleton, or_and_right, exists_or, exists_eq_left, or_assoc]
  rw [hadd, ← h text, isSome_resolve?, isSome_resolve?, get?_register]
  split_ifs with hk
  · exact ⟨fun _ => .inr hk, fun _ => .inr rfl⟩
  · exact ⟨.inl, fun h => h.resolve_right hk⟩

theorem Stands.registers {order : List RecordDeclaration} (h : Stands enums done a) (hregisters : Registers a order b) :
    Stands enums (done ++ order) b := by
  induction hregisters generalizing done with
  | nil => rwa [List.append_nil]
  | @cons a b name properties ps order _ _ ih =>
    rw [List.append_cons]
    exact ih (h.register name properties ps)

/-- Nothing is the matter with a record whose properties are known without the records that something is the matter with. -/
theorem not_blamed_of_known (hnames : WellNamed (Dict.keys enums ++ Dict.keys records)) (hdone : ∀ e ∈ done, e ∈ records)
    (hsound : ∀ e ∈ done, ¬ Blamed enums records e) (hd : ∀ property ∈ d.2, Known enums done property.2) :
    ¬ Blamed enums records d := by
  intro hblamed
  rcases hblamed.cases with ⟨property, hproperty, hunknown⟩ | ⟨e, ⟨he, property, hproperty, hname⟩, hblamed⟩
  · exact hunknown ((hd property hproperty).imp_right (.imp_right fun ⟨e, he, hname⟩ => ⟨e, hdone e he, hname⟩))
  · have hdistinct := hnames.distinct
    rw [List.map_append, List.nodup_append] at hdistinct
    obtain ⟨-, hrecords, hapart⟩ := hdistinct
    have hmem {f : RecordDeclaration} (hf : f ∈ records) : f.1 ∈ Dict.keys records := List.mem_map_of_mem hf
    rcases hd property hproperty with hbuiltin | ⟨f, hf, hother⟩ | ⟨f, hf, hother⟩
    · rw [hnames.read?_eq_none (List.mem_append_right _ (hmem he)) hname] at hbuiltin
      cases hbuiltin
    · exact hapart _ (List.mem_map_of_mem (List.mem_map_of_mem hf)) _ (List.mem_map_of_mem (hmem he))
        (hother.symm.trans hname)
    · rw [Dict.keys, List.map_map] at hrecords
      rw [List.inj_on_of_nodup_map hrecords he (hdone f hf) (hname.symm.trans hother)] at hblamed
      exact hsound f hf hblamed

theorem Registers.not_blamed {order : List RecordDeclaration} (h : Registers a order b)
    (hnames : WellNamed (Dict.keys enums ++ Dict.keys records)) (ha : Stands enums done a)
    (hmem : ∀ e ∈ done ++ order, e ∈ records) (hsound : ∀ e ∈ done, ¬ Blamed enums records e) :
    ∀ e ∈ done ++ order, ¬ Blamed enums records e := by
  induction h generalizing done with
  | nil => rwa [List.append_nil]
  | @cons a b name properties ps order hps _ ih =>
    have hknown : ∀ property ∈ properties, Known enums done property.2 := fun property hproperty =>
      (ha _).1 (isSome_resolveAll?.1 (Option.isSome_of_eq_some hps) property hproperty)
    have hself : ¬ Blamed enums records (name, properties) :=
      not_blamed_of_known hnames (fun e he => hmem e (List.mem_append_left _ he)) hsound hknown
    rw [List.append_cons] at hmem ⊢
    refine ih (ha.register name properties ps) hmem fun e he => ?_
    rcases List.mem_append.1 he with he | he
    · exact hsound e he
    · rwa [List.mem_singleton.1 he]

/-- The records that are left when no other can be registered are such that each leads to an unknown alias or to one of them. -/
theorem Stands.blamed {order rest : List RecordDeclaration} (h : Stands enums order b) (hperm : (order ++ rest).Perm records)
    (hnone : ∀ e ∈ rest, b.resolveAll? e.2 = none) (hd : d ∈ rest) : Blamed enums records d := by
  refine exists_stuck_or_cycle (fun e he => ?_) hd
  have hnot : ¬ ∀ property ∈ e.2, Known enums order property.2 := fun hall => by
    have hsome := isSome_resolveAll?.2 fun property hproperty => (h property.2).2 (hall property hproperty)
    rw [hnone e he] at hsome
    cases hsome
  push Not at hnot
  obtain ⟨property, hproperty, hlate⟩ := hnot
  by_cases hknown : Known enums records property.2
  · rcases hknown with hbuiltin | henum | ⟨f, hf, hname⟩
    · exact absurd (.inl hbuiltin) hlate
    · exact absurd (.inr (.inl henum)) hlate
    · rcases List.mem_append.1 (hperm.mem_iff.2 hf) with hmem | hmem
      · exact absurd (.inr (.inr ⟨f, hmem, hname⟩)) hlate
      · exact .inr ⟨f, hmem, hf, property, hproperty, hname⟩
  · exact .inl ⟨property, hproperty, hknown⟩

/-- Something is the matter with a record exactly if some alias is unknown or the references have a cycle. -/
theorem exists_blamed_iff :
    (∃ d ∈ records, Blamed enums records d) ↔
      ¬ ((∀ d ∈ records, ∀ property ∈ d.2, Known enums records property.2) ∧ ∀ d, ¬ TransGen (Refers records) d d) := by
  constructor
  · rintro ⟨d, hd, e, hreach, ⟨property, hproperty, hunknown⟩ | hcycle⟩ ⟨hknown, hacyclic⟩
    · exact hunknown (hknown e (mem_of_reaches hd hreach) property hproperty)
    · exact hacyclic e hcycle
  · intro h
    by_contra hnone
    push Not at hnone
    refine h ⟨fun d hd property hproperty => by_contra fun hunknown => ?_, fun d hcycle => ?_⟩
    · exact hnone d hd ⟨d, .refl, .inl ⟨property, hproperty, hunknown⟩⟩
    · obtain ⟨_, _, hlast⟩ := TransGen.tail'_iff.1 hcycle
      exact hnone d hlast.1 ⟨d, .refl, .inr hcycle⟩

/-- With names that cannot be mistaken for one another or for built-in types, at most one pass for each record decides which of them
can be registered. All of them can exactly if every alias is known and no record refers to itself, directly or through others. Otherwise
the error names in order the records from which an unknown alias or a cycle is reached, and no others. -/
theorem ofDeclarations_iff {enums : Dict (List String)} {records : Dict (Dict String)}
    (hnames : WellNamed (Dict.keys enums ++ Dict.keys records)) (hsorted : Dict.Sorted records) :
    (∃ n ≤ records.length, Passes (ofEnums enums) records n (ofDeclarations enums records)) ∧
      ((∃ a, ofDeclarations enums records = .ok a) ↔
        (∀ d ∈ records, ∀ property ∈ d.2, Known enums records property.2) ∧ ∀ d, ¬ TransGen (Refers records) d d) ∧
      ∀ names, ofDeclarations enums records = .error names →
        names.Pairwise (· < ·) ∧ ∀ name, name ∈ names ↔ ∃ d ∈ records, d.1 = name ∧ Blamed enums records d := by
  change (∃ n ≤ records.length, Passes (ofEnums enums) records n (registerRecords (ofEnums enums) records)) ∧
    ((∃ a, registerRecords (ofEnums enums) records = .ok a) ↔ _) ∧
    ∀ names, registerRecords (ofEnums enums) records = .error names → _
  obtain ⟨n, hn, hpasses⟩ := passes_registerRecords (ofEnums enums) records
  refine ⟨⟨n, hn, hpasses⟩, ?_⟩
  obtain ⟨order, b, rest, hregisters, hperm, hsub, hnone, hresult⟩ := hpasses.outcome
  have hsound : ∀ d ∈ order, ¬ Blamed enums records d :=
    hregisters.not_blamed hnames stands_ofEnums (fun d hd => hperm.mem_iff.1 (List.mem_append_left _ hd))
      (List.forall_mem_nil _)
  have hblamed : ∀ d ∈ rest, Blamed enums records d := fun d hd =>
    (stands_ofEnums.registers hregisters).blamed hperm hnone hd
  have hrest (d : RecordDeclaration) : d ∈ rest ↔ d ∈ records ∧ Blamed enums records d :=
    ⟨fun hd => ⟨hsub.mem hd, hblamed d hd⟩, fun ⟨hd, hmatter⟩ =>
      (List.mem_append.1 (hperm.mem_iff.2 hd)).resolve_left fun horder => hsound d horder hmatter⟩
  rw [hresult]
  refine ⟨?_, fun names herror => ?_⟩
  · -- The records that are left are those to blame, and it fails if there are any.
    have hempty : (∃ d ∈ records, Blamed enums records d) ↔ rest ≠ [] := by
      rw [ne_eq, List.eq_nil_iff_forall_not_mem, not_forall_not]
      exact exists_congr fun d => (hrest d).symm
    rw [← not_iff_not, ← exists_blamed_iff, hempty]
    split_ifs with hnil
    · simp [hnil]
    · simp [hnil]
  · split_ifs at herror
    cases herror
    refine ⟨List.pairwise_map.2 (hsorted.sublist hsub), fun name => ?_⟩
    simp only [List.mem_map, hrest]
    constructor
    · rintro ⟨d, ⟨hd, hmatter⟩, hname⟩
      exact ⟨d, hd, hname, hmatter⟩
    · rintro ⟨d, hd, hname, hmatter⟩
      exact ⟨d, ⟨hd, hmatter⟩, hname⟩

/-- Two records that refer to each other, one that refers to them and one with an alias of nothing are named. One whose properties
are an enumeration and a number is not. -/
theorem ofDeclarations_iff_pair :
    let enums : Dict (List String) := [("Color", ["RED"])]
    let records : Dict (Dict String) := [("A", [("b", "B")]), ("B", [("a", " a")]), ("C", [("b", "b")]), ("D", [("x", "nope")]),
      ("E", [("c", "color"), ("n", "int")])]
    WellNamed (Dict.keys enums ++ Dict.keys records) ∧ Dict.Sorted records ∧
      ofDeclarations enums records = .error ["A", "B", "C", "D"] ∧
      (∃ n ≤ 5, Passes (ofEnums enums) records n (.error ["A", "B", "C", "D"])) ∧
      ∀ name, name ∈ ["A", "B", "C", "D"] ↔ ∃ d ∈ records, d.1 = name ∧ Blamed enums records d := by
  intro enums records
  have hnames : WellNamed (Dict.keys enums ++ Dict.keys records) := ⟨by decide +kernel, by decide +kernel, by decide +kernel⟩
  have hsorted : Dict.Sorted records := by
    unfold Dict.Sorted
    decide +kernel
  have herror : ofDeclarations enums records = .error ["A", "B", "C", "D"] := by
    rw [ofDeclarations, registerRecords]
    decide +kernel
  obtain ⟨hpasses, -, hblamed⟩ := ofDeclarations_iff hnames hsorted
  rw [herror] at hpasses
  exact ⟨hnames, hsorted, herror, hpasses, (hblamed _ herror).2⟩

end Aliases

end SqlTemplate
