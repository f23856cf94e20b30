import Mathlib.Data.List.Nodup
import SqlTemplate.Proofs.Catalog.Loading

/-! # Variants for databases

Of the variants of a fragment, a statement or a key at most one is taken. Taking it one variant at a time comes to the same in every
order, if no two variants are for the same database. Otherwise a variant is an error if one before it is for the same database, unless
it gives way to another.
-/

namespace SqlTemplate

/-- Some element stands in the relation to those before it. -/
def Meets {α : Type} (P : List α → α → Prop) (l : List α) : Prop := ∃ first a rest, l = first ++ a :: rest ∧ P first a

theorem meets_nil {α : Type} {P : List α → α → Prop} : ¬ Meets P [] := by
  rintro ⟨first, a, rest, hsplit, -⟩
  cases first <;> cases hsplit

theorem meets_cons {α : Type} {P : List α → α → Prop} {a : α} {l : List α} :
    Meets P (a :: l) ↔ P [] a ∨ Meets (fun first => P (a :: first)) l := by
  constructor
  · rintro ⟨first, b, rest, hsplit, h⟩
    cases first with
    | nil =>
      cases hsplit
      exact .inl h
    | cons _ first =>
      cases hsplit
      exact .inr ⟨first, b, rest, rfl, h⟩
  · rintro (h | ⟨first, b, rest, rfl, h⟩)
    · exact ⟨[], a, l, rfl, h⟩
    · exact ⟨a :: first, b, rest, rfl, h⟩

theorem meets_concat {α : Type} {P : List α → α → Prop} {l : List α} {a : α} : Meets P (l ++ [a]) ↔ Meets P l ∨ P l a := by
  constructor
  · rintro ⟨first, b, rest, hsplit, h⟩
    rcases List.eq_nil_or_concat rest with rfl | ⟨rest, last, rfl⟩
    · obtain ⟨rfl, heq⟩ := List.append_inj' hsplit rfl
      cases heq
      exact .inr h
    · rw [List.concat_eq_append, ← List.cons_append, ← List.append_assoc] at hsplit
      exact .inl ⟨first, b, rest, (List.append_inj' hsplit rfl).1, h⟩
  · rintro (⟨first, b, rest, rfl, h⟩ | h)
    · exact ⟨first, b, rest ++ [a], by simp, h⟩
    · exact ⟨l, a, [], rfl, h⟩

theorem Meets.imp {α : Type} {P Q : List α → α → Prop} {l : List α} (h : Meets P l)
    (himp : ∀ first a rest, l = first ++ a :: rest → P first a → Q first a) : Meets Q l := by
  obtain ⟨first, a, rest, hsplit, ha⟩ := h
  exact ⟨first, a, rest, hsplit, himp first a rest hsplit ha⟩

namespace Catalog

variable {c : Catalog} {configured : Option String} {before variants : List Element} {e w : Element}

def databaseOf (e : Element) : Option String := e.attribute? "databaseId"

def isSpecific (configured : Option String) (e : Element) : Bool := (databaseOf e).isSome && databaseOf e == configured

def isNeutral (e : Element) : Bool := (databaseOf e).isNone

/-- The variant for the configured database if there is one, otherwise the one for none in particular if there is one. -/
def winner (configured : Option String) (variants : List Element) : Option Element :=
  (variants.find? (isSpecific configured)).or (variants.find? isNeutral)

theorem mem_of_winner (h : winner configured variants = some w) : w ∈ variants := by
  rcases Option.or_eq_some_iff.1 h with h | ⟨-, h⟩
  · exact List.mem_of_find?_eq_some h
  · exact List.mem_of_find?_eq_some h

theorem notMem_of_nodup {β : Type} {f : Element → β} {rest : List Element} (h : ((before ++ [e] ++ rest).map f).Nodup) :
    f e ∉ before.map f := by
  rw [List.map_append, List.map_append, List.nodup_append] at h
  exact fun hmem => (List.nodup_append.1 h.1).2.2 _ hmem _ (List.mem_singleton_self _) rfl

/-! ## One variant more -/

/-- What a further variant does to those before it. -/
inductive Outcome (c : Catalog) (before : List Element) (e : Element) : Prop
  | foreign (hmatches : c.matchesDatabase (databaseOf e) = false)
    (hafter : winner c.engine.databaseId (before ++ [e]) = winner c.engine.databaseId before)
  | keep {w : Element} (hmatches : c.matchesDatabase (databaseOf e) = true) (hbefore : winner c.engine.databaseId before = some w)
    (hprecedence : Precedence.of (databaseOf w) (databaseOf e) = .keep)
    (hafter : winner c.engine.databaseId (before ++ [e]) = some w)
  | take (hmatches : c.matchesDatabase (databaseOf e) = true)
    (hbefore : ∀ w ∈ winner c.engine.databaseId before, Precedence.of (databaseOf w) (databaseOf e) = .replace)
    (hafter : winner c.engine.databaseId (before ++ [e]) = some e)

theorem winner_concat (configured : Option String) (before : List Element) (e : Element) :
    winner configured (before ++ [e]) =
      ((before.find? (isSpecific configured)).or (if isSpecific configured e then some e else none)).or
        ((before.find? isNeutral).or (if isNeutral e then some e else none)) := by
  rw [winner, List.find?_append, List.find?_append, List.find?_singleton, List.find?_singleton]

theorem databaseOf_of_specific (h : variants.find? (isSpecific configured) = some w) : (databaseOf w).isSome := by
  have hspecific := List.find?_some h
  rw [isSpecific, Bool.and_eq_true] at hspecific
  exact hspecific.1

theorem databaseOf_of_neutral (h : variants.find? isNeutral = some w) : databaseOf w = none := by
  have hneutral := List.find?_some h
  exact Option.isNone_iff_eq_none.1 hneutral

/-- If it is for another database than all of them, it is taken, or one of them has precedence, or it is not for this catalog. -/
theorem outcome (c : Catalog) (hnew : databaseOf e ∉ before.map databaseOf) : Outcome c before e := by
  have hother {v : Element} (hv : v ∈ before) : databaseOf v ≠ databaseOf e := fun h => hnew (h ▸ List.mem_map_of_mem hv)
  have hafter := winner_concat c.engine.databaseId before e
  cases hdatabase : databaseOf e with
  | none =>
    have hneutral : before.find? isNeutral = none :=
      List.find?_eq_none.2 fun v hv => by simpa [isNeutral, hdatabase] using hother hv
    have hspecific : isSpecific c.engine.databaseId e = false := by simp [isSpecific, hdatabase]
    -- It is taken unless a variant for the configured database is among those before.
    have hisNeutral : isNeutral e = true := by simp [isNeutral, hdatabase]
    have hmatches : c.matchesDatabase (databaseOf e) = true := by rw [hdatabase]; rfl
    rw [hneutral, hspecific, hisNeutral] at hafter
    cases hfound : before.find? (isSpecific c.engine.databaseId) with
    | none =>
      rw [hfound] at hafter
      refine .take hmatches (fun w hw => ?_) hafter
      rw [winner, hfound, hneutral] at hw
      cases hw
    | some w =>
      rw [hfound] at hafter
      refine .keep (w := w) hmatches (by rw [winner, hfound]; rfl) ?_ hafter
      obtain ⟨id, hid⟩ := Option.isSome_iff_exists.1 (databaseOf_of_specific hfound)
      rw [hid, hdatabase]
      rfl
  | some id =>
    have hisNeutral : isNeutral e = false := by simp [isNeutral, hdatabase]
    have hmatches : c.matchesDatabase (databaseOf e) = isSpecific c.engine.databaseId e := by
      rw [hdatabase, matchesDatabase, isSpecific, hdatabase, Option.isSome_some, Bool.true_and]
      exact Bool.beq_comm
    rw [hisNeutral] at hafter
    cases hspecific : isSpecific c.engine.databaseId e with
    | false =>
      refine .foreign (hmatches.trans hspecific) ?_
      rw [hafter, hspecific, winner]
      simp
    | true =>
      -- It outranks the one for no database, and another for its own is excluded.
      have hconfigured : databaseOf e = c.engine.databaseId := by
        rw [isSpecific, Bool.and_eq_true, beq_iff_eq] at hspecific
        exact hspecific.2
      have hnone : before.find? (isSpecific c.engine.databaseId) = none :=
        List.find?_eq_none.2 fun v hv => by simpa [isSpecific, ← hconfigured] using fun _ => hother hv
      rw [hnone, hspecific] at hafter
      refine .take (hmatches.trans hspecific) (fun w hw => ?_) hafter
      rw [winner, hnone, Option.none_or] at hw
      rw [databaseOf_of_neutral hw, hdatabase]
      rfl

/-! ## Repeated variants -/

/-- Whether a variant is for the configured database or for none in particular. -/
def suits (configured : Option String) (e : Element) : Bool := isNeutral e || isSpecific configured e

theorem matchesDatabase_eq (c : Catalog) (e : Element) : c.matchesDatabase (databaseOf e) = suits c.engine.databaseId e := by
  rw [suits, isNeutral, isSpecific]
  cases databaseOf e with
  | none => rfl
  | some id => exact Bool.beq_comm

/-- A variant for no database in particular gives way to one for the configured database that stands before it. -/
def Shadowed (configured : Option String) (before : List Element) (e : Element) : Prop :=
  databaseOf e = none ∧ ∃ v ∈ before, isSpecific configured v = true

instance : Decidable (Shadowed configured before e) := inferInstanceAs (Decidable (_ ∧ _))

/-- The variant is compared with those before it. -/
def Considered (configured : Option String) (before : List Element) (e : Element) : Prop :=
  suits configured e = true ∧ ¬ Shadowed configured before e

instance : Decidable (Considered configured before e) := inferInstanceAs (Decidable (_ ∧ _))

/-- The variant is compared with those before it, and one of them is for the same database. -/
def Repeated (configured : Option String) (before : List Element) (e : Element) : Prop :=
  Considered configured before e ∧ databaseOf e ∈ before.map databaseOf

/-- What becomes of a further variant. -/
inductive Verdict (configured : Option String) (before : List Element) (e : Element) : Prop
  | foreign (hsuits : suits configured e = false) (hafter : winner configured (before ++ [e]) = winner configured before)
  | shadowed {w : Element} (hsuits : suits configured e = true) (hshadowed : Shadowed configured before e)
    (hbefore : winner configured before = some w) (hprecedence : Precedence.of (databaseOf w) (databaseOf e) = .keep)
    (hafter : winner configured (before ++ [e]) = winner configured before)
  | repeated {w : Element} (hrepeated : Repeated configured before e) (hbefore : winner configured before = some w)
    (hprecedence : Precedence.of (databaseOf w) (databaseOf e) = .duplicate)
  | taken (hconsidered : Considered configured before e) (hnew : databaseOf e ∉ before.map databaseOf)
    (hbefore : ∀ w ∈ winner configured before, Precedence.of (databaseOf w) (databaseOf e) = .replace)
    (hafter : winner configured (before ++ [e]) = some e)

theorem winner_of_specific (h : ∃ v ∈ before, isSpecific configured v = true) :
    ∃ w, winner configured before = some w ∧ before.find? (isSpecific configured) = some w ∧ (databaseOf w).isSome := by
  obtain ⟨w, hw⟩ := Option.isSome_iff_exists.1 (List.find?_isSome.2 h)
  exact ⟨w, by rw [winner, hw, Option.some_or], hw, databaseOf_of_specific hw⟩

theorem winner_foreign (h : suits configured e = false) : winner configured (before ++ [e]) = winner configured before := by
  rw [suits, Bool.or_eq_false_iff] at h
  rw [winner_concat, h.1, h.2, winner]
  simp

theorem winner_shadowed (h : Shadowed configured before e) :
    winner configured (before ++ [e]) = winner configured before ∧
      ∃ w, winner configured before = some w ∧ Precedence.of (databaseOf w) (databaseOf e) = .keep := by
  obtain ⟨hdatabase, hspecific⟩ := h
  obtain ⟨w, hw, hfind, hsome⟩ := winner_of_specific hspecific
  obtain ⟨id, hid⟩ := Option.isSome_iff_exists.1 hsome
  refine ⟨?_, w, hw, by rw [hid, hdatabase]; rfl⟩
  rw [winner_concat, hw, hfind]
  rfl

theorem winner_repeated (h : Repeated configured before e) :
    ∃ w, winner configured before = some w ∧ Precedence.of (databaseOf w) (databaseOf e) = .duplicate := by
  obtain ⟨⟨hsuits, hshadowed⟩, hmem⟩ := h
  obtain ⟨v, hv, hdatabase⟩ := List.mem_map.1 hmem
  cases hneutral : databaseOf e with
  | none =>
    -- Those before are for no database in particular, and the first of them is registered.
    have hspecific : before.find? (isSpecific configured) = none :=
      List.find?_eq_none.2 fun v hv hv' => hshadowed ⟨hneutral, v, hv, hv'⟩
    obtain ⟨w, hw⟩ := Option.isSome_iff_exists.1
      (List.find?_isSome.2 ⟨v, hv, show isNeutral v = true by rw [isNeutral, hdatabase, hneutral]; rfl⟩)
    refine ⟨w, by rw [winner, hspecific, hw, Option.none_or], ?_⟩
    rw [databaseOf_of_neutral hw]
    rfl
  | some id =>
    have hspecific : isSpecific configured v = true := by
      rw [suits, isNeutral, isSpecific, hneutral] at hsuits
      rw [isSpecific, hdatabase, hneutral]
      simpa using hsuits
    obtain ⟨w, hw, -, hsome⟩ := winner_of_specific ⟨v, hv, hspecific⟩
    obtain ⟨id', hid'⟩ := Option.isSome_iff_exists.1 hsome
    exact ⟨w, hw, by rw [hid']; rfl⟩

theorem shadowed_of_keep {w : Element} (hw : winner configured before = some w)
    (h : Precedence.of (databaseOf w) (databaseOf e) = .keep) : Shadowed configured before e := by
  cases hdatabase : databaseOf w with
  | none => cases hnext : databaseOf e <;> simp [Precedence.of, hdatabase, hnext] at h
  | some id =>
    cases hnext : databaseOf e with
    | some other => simp [Precedence.of, hdatabase, hnext] at h
    | none =>
      refine ⟨hnext, w, mem_of_winner hw, ?_⟩
      rcases Option.or_eq_some_iff.1 hw with hspecific | ⟨-, hneutral⟩
      · exact List.find?_some hspecific
      · rw [databaseOf_of_neutral hneutral] at hdatabase
        cases hdatabase

theorem verdict (c : Catalog) (before : List Element) (e : Element) : Verdict c.engine.databaseId before e := by
  cases hsuits : suits c.engine.databaseId e with
  | false => exact .foreign hsuits (winner_foreign hsuits)
  | true =>
    by_cases hshadowed : Shadowed c.engine.databaseId before e
    · obtain ⟨hafter, w, hw, hprecedence⟩ := winner_shadowed hshadowed
      exact .shadowed hsuits hshadowed hw hprecedence hafter
    by_cases hmem : databaseOf e ∈ before.map databaseOf
    · obtain ⟨w, hw, hprecedence⟩ := winner_repeated ⟨⟨hsuits, hshadowed⟩, hmem⟩
      exact .repeated ⟨⟨hsuits, hshadowed⟩, hmem⟩ hw hprecedence
    · rcases outcome c hmem with ⟨hmatches, -⟩ | ⟨-, hw, hprecedence, -⟩ | ⟨-, hbefore, hafter⟩
      · rw [matchesDatabase_eq, hsuits] at hmatches
        cases hmatches
      · exact absurd (shadowed_of_keep hw hprecedence) hshadowed
      · exact .taken ⟨hsuits, hshadowed⟩ hmem hbefore hafter

/-! ## In any order -/

theorem find?_unique {p : Element → Bool} (hunique : ∀ v ∈ variants, ∀ w ∈ variants, p v = true → p w = true → v = w) :
    variants.find? p = some w ↔ w ∈ variants ∧ p w = true := by
  constructor
  · exact fun h => ⟨List.mem_of_find?_eq_some h, List.find?_some h⟩
  · rintro ⟨hmem, hw⟩
    obtain ⟨v, hv⟩ := Option.isSome_iff_exists.1 (List.find?_isSome.2 ⟨w, hmem, hw⟩)
    rw [hv, hunique v (List.mem_of_find?_eq_some hv) w hmem (List.find?_some hv) hw]

/-- Which variant is taken depends on the variants alone. -/
theorem winner_perm {variants' : List Element} (hperm : variants.Perm variants') (hnodup : (variants.map databaseOf).Nodup) :
    winner configured variants = winner configured variants' := by
  have hinj {v w : Element} (hv : v ∈ variants) (hw : w ∈ variants) (h : databaseOf v = databaseOf w) : v = w :=
    List.inj_on_of_nodup_map hnodup hv hw h
  have hfind {p : Element → Bool} (hp : ∀ v w, p v = true → p w = true → databaseOf v = databaseOf w) :
      variants.find? p = variants'.find? p := by
    ext w
    rw [find?_unique fun v hv w hw hpv hpw => hinj hv hw (hp v w hpv hpw),
      find?_unique fun v hv w hw hpv hpw => hinj (hperm.mem_iff.2 hv) (hperm.mem_iff.2 hw) (hp v w hpv hpw), hperm.mem_iff]
  rw [winner, winner, hfind, hfind]
  · intro v w hv hw
    rw [Option.isNone_iff_eq_none.1 hv, Option.isNone_iff_eq_none.1 hw]
  · intro v w hv hw
    rw [isSpecific, Bool.and_eq_true, beq_iff_eq] at hv hw
    rw [hv.2, hw.2]

/-! ## Keys -/

/-- The selectKey elements among the contents. -/
def keysIn (contents : List Content) : List Element := (contents.filterMap Content.asElement?).filter fun e => e.name = "selectKey"

theorem keysIn_selectKey (attributes : List (String × String)) (children contents : List Content) :
    keysIn (.element "selectKey" attributes children :: contents) = ⟨"selectKey", attributes, children⟩ :: keysIn contents := rfl

theorem keysIn_other {content : Content} {contents : List Content}
    (h : ∀ attributes children, content ≠ .element "selectKey" attributes children) :
    keysIn (content :: contents) = keysIn contents := by
  cases content with
  | text | cdata => rfl
  | element name attributes children =>
    have hname : name ≠ "selectKey" := by
      rintro rfl
      exact h attributes children rfl
    simp [keysIn, Content.asElement?, hname]

theorem chooseKey_selectKey (c : Catalog) (id : String) (chosen : Option Element) (attributes : List (String × String))
    (children contents : List Content) :
    c.chooseKey id chosen (.element "selectKey" attributes children :: contents) =
      let key : Element := ⟨"selectKey", attributes, children⟩
      if c.matchesDatabase (databaseOf key) then
        match chosen with
        | none => c.chooseKey id (some key) contents
        | some previous =>
          match Precedence.of (databaseOf previous) (databaseOf key) with
          | .replace => c.chooseKey id (some key) contents
          | .keep => c.chooseKey id chosen contents
          | .duplicate => .error (.duplicateStatement (id ++ selectKeySuffix))
      else c.chooseKey id chosen contents := rfl

theorem chooseKey_other {content : Content} (h : ∀ attributes children, content ≠ .element "selectKey" attributes children)
    (c : Catalog) (id : String) (chosen : Option Element) (contents : List Content) :
    c.chooseKey id chosen (content :: contents) = c.chooseKey id chosen contents := by
  rw [chooseKey]
  simpa using h

theorem chooseKey_step (c : Catalog) (id : String) (before : List Element) (attributes : List (String × String))
    (children contents : List Content) :
    let key : Element := ⟨"selectKey", attributes, children⟩
    let result := c.chooseKey id (winner c.engine.databaseId before) (.element "selectKey" attributes children :: contents)
    (Repeated c.engine.databaseId before key ∧ result = .error (.duplicateStatement (id ++ selectKeySuffix))) ∨
      (¬ Repeated c.engine.databaseId before key ∧
        result = c.chooseKey id (winner c.engine.databaseId (before ++ [key])) contents) := by
  intro key result
  have hresult := chooseKey_selectKey c id (winner c.engine.databaseId before) attributes children contents
  have hmatches := matchesDatabase_eq c key
  dsimp only at hresult
  rcases verdict c before key with ⟨hsuits, hafter⟩ | ⟨hsuits, hshadowed, hw, hprecedence, hafter⟩ | ⟨hrepeated, hw, hprecedence⟩ |
    ⟨hconsidered, hnew, hbefore, hafter⟩
  · refine .inr ⟨fun h => by simp [h.1.1] at hsuits, ?_⟩
    rw [hafter]
    exact hresult.trans (if_neg (by rw [hmatches, hsuits]; decide))
  · refine .inr ⟨fun h => h.1.2 hshadowed, ?_⟩
    rw [hafter]
    refine hresult.trans ((if_pos (hmatches.trans hsuits)).trans ?_)
    rw [hw]
    dsimp only
    rw [hprecedence]
  · refine .inl ⟨hrepeated, hresult.trans ((if_pos (hmatches.trans hrepeated.1.1)).trans ?_)⟩
    rw [hw]
    dsimp only
    rw [hprecedence]
  · refine .inr ⟨fun h => hnew h.2, ?_⟩
    rw [hafter]
    refine hresult.trans ((if_pos (hmatches.trans hconsidered.1)).trans ?_)
    cases hwinner : winner c.engine.databaseId before with
    | none => rfl
    | some w =>
      dsimp only
      rw [hbefore w hwinner]

/-- A key that is repeated is an error, and otherwise one is chosen. -/
theorem chooseKey_meets (c : Catalog) (id : String) (before : List Element) (contents : List Content) :
    (Meets (fun first => Repeated c.engine.databaseId (before ++ first)) (keysIn contents) ∧
        c.chooseKey id (winner c.engine.databaseId before) contents = .error (.duplicateStatement (id ++ selectKeySuffix))) ∨
      (¬ Meets (fun first => Repeated c.engine.databaseId (before ++ first)) (keysIn contents) ∧
        c.chooseKey id (winner c.engine.databaseId before) contents =
          .ok (winner c.engine.databaseId (before ++ keysIn contents))) := by
  induction contents generalizing before with
  | nil => exact .inr ⟨meets_nil, by rw [keysIn, List.filterMap_nil, List.filter_nil, List.append_nil]; rfl⟩
  | cons content contents ih =>
    by_cases hkey : ∃ attributes children, content = .element "selectKey" attributes children
    · obtain ⟨attributes, children, rfl⟩ := hkey
      have hrest := ih (before ++ [⟨"selectKey", attributes, children⟩])
      simp only [List.append_assoc, List.singleton_append] at hrest
      rw [keysIn_selectKey, meets_cons, List.append_nil]
      rcases chooseKey_step c id before attributes children contents with ⟨hrepeated, hresult⟩ | ⟨hrepeated, hresult⟩
      · exact .inl ⟨.inl hrepeated, hresult⟩
      · rw [hresult]
        simpa [hrepeated] using hrest
    · have hother : ∀ attributes children, content ≠ .element "selectKey" attributes children :=
        fun attributes children heq => hkey ⟨attributes, children, heq⟩
      rw [keysIn_other hother, chooseKey_other hother]
      exact ih before

/-- The key of a statement is chosen like any other variant. -/
theorem chooseKey_eq (c : Catalog) (id : String) {contents : List Content}
    (hnodup : ((before ++ keysIn contents).map databaseOf).Nodup) :
    c.chooseKey id (winner c.engine.databaseId before) contents = .ok (winner c.engine.databaseId (before ++ keysIn contents)) := by
  rcases chooseKey_meets c id before contents with ⟨⟨first, key, rest, hsplit, hrepeated⟩, -⟩ | ⟨-, hchosen⟩
  · rw [hsplit, ← List.append_assoc, List.append_cons] at hnodup
    exact absurd hrepeated.2 (notMem_of_nodup hnodup)
  · exact hchosen

end Catalog

end SqlTemplate
