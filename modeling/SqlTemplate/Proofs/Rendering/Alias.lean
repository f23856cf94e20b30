import SqlTemplate.Number.Integer
import SqlTemplate.Proofs.Mapping.Spelling
import SqlTemplate.Proofs.Token.Contents
import SqlTemplate.Rendering.Loop

/-! # Aliases

An alias tells the variable and the iteration, and no variable is called like one. A placeholder is renamed exactly if its path
begins with a variable of the loop.
-/

namespace SqlTemplate

open Text

/-- What every alias begins with. -/
def aliasPrefix : List Char := "__frch_".toList

/-- A name for a loop variable or for the root of a path that no alias and no other binding has. -/
def isVariable (name : String) : Bool :=
  !name.toList.isEmpty && name.toList.all isNameChar && !aliasPrefix.isPrefixOf name.toList && name != parameterKey &&
    name != databaseIdKey

theorem isVariable_iff {name : String} :
    isVariable name = true ↔ name.toList ≠ [] ∧ (∀ c ∈ name.toList, isNameChar c = true) ∧ ¬ aliasPrefix <+: name.toList ∧
      name ≠ parameterKey ∧ name ≠ databaseIdKey := by
  have hprefix : aliasPrefix.isPrefixOf name.toList = false ↔ ¬ aliasPrefix <+: name.toList := by
    rw [← List.isPrefixOf_iff_prefix, Bool.not_eq_true]
  simp [isVariable, and_assoc, hprefix]

theorem toList_aliasName (name : String) (n : Nat) :
    (aliasName name n).toList = aliasPrefix ++ (name.toList ++ '_' :: Nat.toDigits 10 n) := by
  have hparts (digits : String) :
      ("__frch_" ++ name ++ "_" ++ digits).toList = aliasPrefix ++ (name.toList ++ '_' :: digits.toList) := by
    rw [String.toList_append, String.toList_append, String.toList_append, List.append_assoc, List.append_assoc]
    rfl
  refine (hparts (toString n)).trans ?_
  rw [Nat.toString_eq_ofList_toDigits, String.toList_ofList]

theorem aliasPrefix_aliasName (name : String) (n : Nat) : aliasPrefix <+: (aliasName name n).toList := by
  rw [toList_aliasName]
  exact List.prefix_append _ _

theorem aliasName_ne_nil (name : String) (n : Nat) : (aliasName name n).toList ≠ [] := by
  rw [toList_aliasName]
  exact List.append_ne_nil_of_left_ne_nil (by decide) _

theorem ne_aliasName {name : String} (h : isVariable name = true) (x : String) (n : Nat) : name ≠ aliasName x n := by
  rintro rfl
  exact (isVariable_iff.1 h).2.2.1 (aliasPrefix_aliasName x n)

theorem aliasEnd_names (n : Nat) : ∀ c ∈ '_' :: Nat.toDigits 10 n, isNameChar c = true := by
  rw [List.forall_mem_cons]
  exact ⟨rfl, fun c hc => isNameChar_of_isDigit (Number.isDigit_toDigits _ _ hc)⟩

theorem aliasPrefix_names : ∀ c ∈ aliasPrefix, isNameChar c = true := by
  have hall : aliasPrefix.all isNameChar = true := by decide
  exact fun c => List.all_eq_true.1 hall c

theorem aliasName_names {name : String} (h : ∀ c ∈ name.toList, isNameChar c = true) (n : Nat) :
    ∀ c ∈ (aliasName name n).toList, isNameChar c = true := by
  rw [toList_aliasName]
  exact List.forall_mem_append.2 ⟨aliasPrefix_names, List.forall_mem_append.2 ⟨h, aliasEnd_names n⟩⟩

theorem append_underscore_inj {a b d e : List Char} (hd : '_' ∉ d) (he : '_' ∉ e) (h : a ++ '_' :: d = b ++ '_' :: e) :
    a = b ∧ d = e := by
  rcases List.append_eq_append_iff.1 h with ⟨m, rfl, hm⟩ | ⟨m, rfl, hm⟩
  · cases m with
    | nil => exact ⟨(List.append_nil a).symm, (List.cons.inj hm).2⟩
    | cons c m =>
      rw [List.cons_append, List.cons.injEq] at hm
      exact absurd (by simp [hm.2]) hd
  · cases m with
    | nil => exact ⟨List.append_nil b, (List.cons.inj hm).2.symm⟩
    | cons c m =>
      rw [List.cons_append, List.cons.injEq] at hm
      exact absurd (by simp [hm.2]) he

theorem aliasName_inj {x y : String} {m n : Nat} : aliasName x m = aliasName y n ↔ x = y ∧ m = n := by
  refine ⟨fun h => ?_, fun ⟨hx, hm⟩ => hx ▸ hm ▸ rfl⟩
  have hlist := congrArg String.toList h
  rw [toList_aliasName, toList_aliasName, List.append_cancel_left_eq] at hlist
  obtain ⟨hname, hdigits⟩ := append_underscore_inj Nat.underscore_not_in_toDigits Nat.underscore_not_in_toDigits hlist
  refine ⟨String.toList_injective hname, ?_⟩
  have hread := Number.readDigits?_toDigits m
  rw [hdigits, Number.readDigits?_toDigits, Option.some.injEq] at hread
  exact hread.symm

/-! ## Renaming -/

theorem not_name_of_endsName {cs : List Char} (h : endsName cs = true) : ∀ c ∈ cs.head?, isNameChar c = false := by
  cases cs with
  | nil => simp
  | cons c cs =>
    rintro _ ⟨⟩
    simp only [endsName, isGap, Bool.or_eq_true, beq_iff_eq] at h
    rcases h with (((rfl | rfl) | rfl) | rfl) | ((rfl | rfl) | rfl) | rfl <;> decide

/-- The content of a placeholder up to what follows its root. -/
structure Rooted (raw name rest : List Char) : Prop where
  blanks : ∃ before, (∀ c ∈ before, isBlank c = true) ∧ raw = before ++ (name ++ rest)
  hne : name ≠ []
  hname : ∀ c ∈ name, isNameChar c = true
  ends : endsName rest = true

namespace Rooted

variable {raw name rest : List Char}

theorem trimStart_eq (h : Rooted raw name rest) : trimStart raw = name ++ rest := by
  obtain ⟨before, hbefore, rfl⟩ := h.blanks
  exact trimStart_name hbefore h.hne h.hname rest

/-- Only the root itself is taken for the name. -/
theorem renameRoot?_eq (h : Rooted raw name rest) {x : String} (hx : ∀ c ∈ x.toList, isNameChar c = true) (n : Nat) :
    renameRoot? n (.ofList raw) x =
      if x.toList = name then some (aliasName x n ++ .ofList rest) else none := by
  rw [renameRoot?, String.toList_ofList, h.trimStart_eq]
  split_ifs with heq
  · rw [heq, after?_append]
    exact if_pos h.ends
  · cases hafter : after? x.toList (name ++ rest) with
    | none => rfl
    | some rest' =>
      refine if_neg fun hends => heq ?_
      have hsplit := eq_append_of_after? hafter
      obtain ⟨hname, -⟩ := run_split h.hname (not_name_of_endsName h.ends)
      obtain ⟨hx', -⟩ := run_split hx (not_name_of_endsName hends)
      rw [← hx', ← hsplit, hname]

theorem renameContent_eq (h : Rooted raw name rest) {names : List String}
    (hnames : ∀ x ∈ names, ∀ c ∈ x.toList, isNameChar c = true) (n : Nat) :
    renameContent names n (.ofList raw) =
      if .ofList name ∈ names then aliasName (.ofList name) n ++ .ofList rest else .ofList raw := by
  unfold renameContent
  induction names with
  | nil => rfl
  | cons x names ih =>
    rw [List.forall_mem_cons] at hnames
    rw [List.findSome?_cons, h.renameRoot?_eq hnames.1]
    by_cases hx : x.toList = name
    · obtain rfl : x = .ofList name := by rw [← hx, String.ofList_toList]
      rw [if_pos hx, if_pos List.mem_cons_self]
      rfl
    · have hx' : String.ofList name ≠ x := fun heq => hx (by rw [← heq, String.toList_ofList])
      simp only [if_neg hx, List.mem_cons, hx', false_or]
      exact ih hnames.2

end Rooted

end SqlTemplate
