import SqlTemplate.Proofs.Rendering.Renaming

/-! # Which placeholders belong to a loop

A loop takes a placeholder for its own by the name at the front and the character after that, in the text with its escapes. What
is bound to the placeholder in the end goes by the root of its path. The two agree but for two kinds of placeholders.
-/

namespace SqlTemplate

open Text Placeholder

/-! ## Paths -/

/-- What a loop should make of a placeholder. One whose path begins with a name of the loop gets the alias for its root and stays
otherwise the same, and any other one is left as it is. -/
def Repointed (names : List String) (n : Nat) (content content' : String) (p : Placeholder) : Prop :=
  let path := Path.parse p.property
  if path.root ∈ names then
    ∃ q tail, Placeholder.parse content' = .ok q ∧ p.property = path.root ++ tail ∧ q.property = aliasName path.root n ++ tail ∧
      (Path.parse q.property).steps = .property (aliasName path.root n) :: path.rest ∧ q.sqlType = p.sqlType ∧ q.options = p.options
  else content' = content

/-- The property is a name of the loop, and a blank that is no gap comes right after it. -/
def Overlooked (names : List String) (content : String) (p : Placeholder) : Prop :=
  p.property ∈ names ∧
    ∃ c rest, trimStart content.toList = p.property.toList ++ c :: rest ∧ isBlank c = true ∧ isGap c = false

/-- The property is no path, but a name of the loop and something that may come after a name stand at its front. -/
def Taken (names : List String) (p : Placeholder) : Prop :=
  Path.readSteps? p.property.toList = none ∧
    ∃ x ∈ names, ∃ c rest, p.property.toList = x.toList ++ c :: rest ∧ (c = '.' ∨ c = '[' ∨ isGap c = true)

section Ownership

variable {names : List String} {content : String} {p : Placeholder}

theorem property_split (hp : Placeholder.parse content = .ok p) {x : String} (hx : IsLoopName x) {more : List Char}
    (hmore : ∀ c ∈ more.head?, isNameChar c = false) (h : p.property.toList = x.toList ++ more) :
    leadingName content = x.toList ∧ propertyEnd (afterName content) = more := by
  obtain ⟨htake, hdrop⟩ := run_split (leadingName_chars content) (propertyEnd_head (afterName_head content))
  obtain ⟨htake', hdrop'⟩ := run_split hx.2 hmore
  rw [← toList_property hp, h] at htake hdrop
  exact ⟨htake.symm.trans htake', hdrop.symm.trans hdrop'⟩

theorem property_name (hp : Placeholder.parse content = .ok p) (hx : IsLoopName p.property) :
    leadingName content = p.property.toList ∧ propertyEnd (afterName content) = [] :=
  property_split hp hx (by simp) (List.append_nil _).symm

/-- The root of a path is the name at its front. A property that is no path is not the name of a loop. -/
theorem path_of_steps (hp : Placeholder.parse content = .ok p) (hne : leadingName content ≠ []) {steps : List Step}
    (hsteps : Step.readAll? (propertyEnd (afterName content)) = some steps) :
    Path.parse p.property = ⟨p.property, .property (.ofList (leadingName content)), steps⟩ := by
  have hread := readSteps?_property hp
  rw [if_neg hne, hsteps] at hread
  rw [path_property hp, hread]
  rfl

theorem root_of_no_path (hp : Placeholder.parse content = .ok p) (hnone : Path.readSteps? p.property.toList = none) :
    (Path.parse p.property).root = p.property := by
  rw [path_property hp, hnone]
  rfl

theorem aliasName_ne (x : String) (n : Nat) : aliasName x n ≠ x := by
  intro heq
  have hlength := congrArg (fun s => s.toList.length) heq
  simp only [toList_aliasName, List.length_append, List.length_cons] at hlength
  omega

/-- After a name of the loop that ends there, or after no name of it, stands what decides whether the two sides agree. -/
theorem readSteps?_eq_none (hp : Placeholder.parse content = .ok p) (hnone : Path.readSteps? p.property.toList = none)
    {x : String} (hx : IsLoopName x) (h : leadingName content = x.toList) :
    ∃ c rest more, p.property.toList = x.toList ++ c :: rest ∧ afterName content = c :: more ∧ isNamePart c = true := by
  have hread := readSteps?_property hp
  rw [hnone, h, if_neg hx.1] at hread
  cases htail : propertyEnd (afterName content) with
  | nil =>
    rw [htail, Step.readAll?] at hread
    cases hread
  | cons c rest =>
    obtain ⟨more, hmore⟩ := propertyEnd_prefix (afterName content)
    rw [htail] at hmore
    refine ⟨c, rest, rest ++ more, by rw [toList_property hp, h, htail], hmore.symm, ?_⟩
    have hpart : ∀ d ∈ propertyEnd (afterName content), isNamePart d = true := fun d hd =>
      List.mem_takeWhile_imp ((List.rdropWhile_prefix isBlank _).subset hd)
    exact hpart c (by rw [htail]; exact List.mem_cons_self)

variable (hnames : ∀ x ∈ names, IsLoopName x)

include hnames

theorem not_overlooked_of_ends (hp : Placeholder.parse content = .ok p) (hends : endsName (afterName content) = true) :
    ¬ Overlooked names content p := by
  rintro ⟨hmem, c, rest, htrim, hblank, hgap⟩
  have hname := (property_name hp (hnames _ hmem)).1
  rw [← leadingName_append, hname, List.append_cancel_left_eq] at htrim
  rw [htrim, endsName, hgap] at hends
  simp only [Bool.or_false, Bool.or_eq_true, beq_iff_eq] at hends
  rcases hends with ((rfl | rfl) | rfl) | rfl <;> cases hblank

/-- The path begins with a name of the loop, which gives way to the alias. -/
theorem repointed_renamed (hp : Placeholder.parse content = .ok p) {steps : List Step}
    (hsteps : Step.readAll? (propertyEnd (afterName content)) = some steps) (hmem : .ofList (leadingName content) ∈ names) (n : Nat) :
    Repointed names n content (aliasName (.ofList (leadingName content)) n ++ .ofList (afterName content)) p := by
  have hne := leadingName_ne_nil hnames hmem
  have halias := aliasName_names (hnames _ hmem).2 n
  generalize hx : String.ofList (leadingName content) = x at *
  obtain ⟨hname', hafter'⟩ := leadingName_other (aliasName_ne_nil x n) halias content
  obtain ⟨q, hq, htype, hoptions⟩ := parse_other (aliasName_ne_nil x n) halias hp
  have hpath := path_of_steps hp hne hsteps
  have hpath' := path_of_steps hq (by rw [hname']; exact aliasName_ne_nil x n) (by rw [hafter']; exact hsteps)
  rw [hx] at hpath
  rw [hname', String.ofList_toList] at hpath'
  unfold Repointed
  rw [hpath]
  refine (if_pos hmem).mpr ⟨q, .ofList (propertyEnd (afterName content)), hq, ?_, ?_, ?_, htype, hoptions⟩
  · rw [(parse_ok_iff.1 hp).2.2.1, String.ofList_append, hx]
    rfl
  · rw [(parse_ok_iff.1 hq).2.2.1, hname', hafter', String.ofList_append, String.ofList_toList]
    rfl
  · rw [hpath']
    rfl

omit hnames in
/-- A path whose name does not end there is the name alone, with a blank after it. -/
theorem overlooked_of_not_ends (hp : Placeholder.parse content = .ok p) {steps : List Step}
    (hsteps : Step.readAll? (propertyEnd (afterName content)) = some steps) (hmem : .ofList (leadingName content) ∈ names)
    (hends : endsName (afterName content) = false) : Overlooked names content p := by
  cases hafter : afterName content with
  | nil =>
    rw [hafter] at hends
    cases hends
  | cons c rest =>
    rw [hafter, endsName] at hends
    simp only [Bool.or_eq_false_iff, beq_eq_false_iff_ne] at hends
    obtain ⟨⟨⟨⟨hdot, hcomma⟩, hcolon⟩, hbracket⟩, hgap⟩ := hends
    have htail : propertyEnd (c :: rest) = [] := by
      cases hpart : propertyEnd (c :: rest) with
      | nil => rfl
      | cons d more =>
        obtain ⟨t, ht⟩ := propertyEnd_prefix (c :: rest)
        rw [hpart, List.cons_append, List.cons.injEq] at ht
        rw [hafter, hpart] at hsteps
        rcases (Stepped.of_readAll? (by rw [hsteps]; rfl)).head d rfl with hd | hd
        · exact absurd (ht.1 ▸ hd) hdot
        · exact absurd (ht.1 ▸ hd) hbracket
    have hproperty : p.property = .ofList (leadingName content) := by
      rw [(parse_ok_iff.1 hp).2.2.1, hafter, htail, List.append_nil]
    refine ⟨hproperty ▸ hmem, c, rest, ?_, ?_, hgap⟩
    · rw [hproperty, String.toList_ofList, ← hafter, leadingName_append]
    · have hblanks := List.rdropWhile_eq_nil_iff.1 htail
      exact hblanks c (by rw [List.takeWhile_cons_of_pos (by simp [isNamePart, hcomma, hcolon])]; exact List.mem_cons_self)

/-- A property whose path does not begin with a name of the loop is taken if its front looks as if it did. -/
theorem taken_iff (hp : Placeholder.parse content = .ok p) (hnone : Path.readSteps? p.property.toList = none) :
    Taken names p ↔ .ofList (leadingName content) ∈ names ∧ endsName (afterName content) = true := by
  constructor
  · rintro ⟨-, x, hx, c, rest, hproperty, hc⟩
    have hends : ∀ more, endsName (c :: more) = true := by
      intro more
      rcases hc with rfl | rfl | hgap
      · rfl
      · rfl
      · simp [endsName, hgap]
    obtain ⟨hname, htail⟩ := property_split hp (hnames x hx) (not_name_of_endsName (hends rest)) hproperty
    obtain ⟨more, hmore⟩ := propertyEnd_prefix (afterName content)
    rw [hname, String.ofList_toList, ← hmore, htail]
    exact ⟨hx, hends _⟩
  · rintro ⟨hmem, hends⟩
    obtain ⟨c, rest, more, hproperty, hafter, hpart⟩ :=
      readSteps?_eq_none hp hnone (hnames _ hmem) (by rw [String.toList_ofList])
    refine ⟨hnone, _, hmem, c, rest, hproperty, ?_⟩
    rw [hafter, endsName] at hends
    simp only [Bool.or_eq_true, beq_iff_eq] at hends
    rcases hends with (((hdot | rfl) | rfl) | hbracket) | hgap
    · exact .inl hdot
    · cases hpart
    · cases hpart
    · exact .inr (.inl hbracket)
    · exact .inr (.inr hgap)

theorem root_notMem (hp : Placeholder.parse content = .ok p) (hnone : Path.readSteps? p.property.toList = none) :
    p.property ∉ names := by
  intro hmem
  obtain ⟨hname, htail⟩ := property_name hp (hnames _ hmem)
  have hread := readSteps?_property hp
  rw [hnone, hname, htail, if_neg (hnames _ hmem).1, Step.readAll?] at hread
  cases hread

/-- What a loop renames does not stay as it was. -/
theorem renamed_ne (n : Nat) (hmem : .ofList (leadingName content) ∈ names) :
    aliasName (.ofList (leadingName content)) n ++ .ofList (afterName content) ≠ content := by
  intro heq
  have halias := aliasName_names (hnames _ hmem).2 n
  obtain ⟨hname, -⟩ := leadingName_other (aliasName_ne_nil _ n) halias content
  rw [heq] at hname
  exact aliasName_ne _ n (String.toList_injective (by rw [← hname, String.toList_ofList]))

omit hnames in
theorem not_repointed_self (hp : Placeholder.parse content = .ok p) (hmem : (Path.parse p.property).root ∈ names) (n : Nat) :
    ¬ Repointed names n content content p := by
  intro h
  obtain ⟨q, tail, hq, -, -, hsteps, -⟩ := (if_pos hmem).mp h
  rw [hp, Except.ok.injEq] at hq
  rw [← hq, Path.steps, List.cons.injEq] at hsteps
  exact aliasName_ne _ n (congrArg Step.name hsteps.1).symm

/-- A loop does what it should with a placeholder unless it overlooks it or takes it for its own. -/
theorem repointed_iff (hp : Placeholder.parse content = .ok p) (n : Nat) :
    Repointed names n content (renameContent names n content) p ↔ ¬ Overlooked names content p ∧ ¬ Taken names p := by
  have hfree (hroot : (Path.parse p.property).root ∉ names) (content' : String) :
      Repointed names n content content' p ↔ content' = content := iff_of_eq (if_neg hroot)
  rw [renameContent_run hnames]
  -- A property that is no path can only be taken, and one that is can only be overlooked.
  cases hread : Path.readSteps? p.property.toList with
  | none =>
    have hproperty := root_notMem hnames hp hread
    have hoverlooked : ¬ Overlooked names content p := fun h => hproperty h.1
    rw [hfree (by rwa [root_of_no_path hp hread]), taken_iff hnames hp hread]
    split_ifs with hfit
    · exact ⟨fun heq => absurd heq (renamed_ne hnames n hfit.1), fun h => absurd hfit h.2⟩
    · exact ⟨fun _ => ⟨hoverlooked, hfit⟩, fun _ => rfl⟩
  | some found =>
    have htaken : ¬ Taken names p := by
      rintro ⟨hnone, -⟩
      rw [hread] at hnone
      cases hnone
    obtain ⟨hne, steps, hsteps⟩ : leadingName content ≠ [] ∧ ∃ steps, Step.readAll? (propertyEnd (afterName content)) = some steps := by
      rw [readSteps?_property hp] at hread
      split_ifs at hread with hne
      · exact ⟨hne, (Option.map_eq_some_iff.1 hread).imp fun _ h => h.1⟩
    have hroot : (Path.parse p.property).root = .ofList (leadingName content) := by
      rw [path_of_steps hp hne hsteps]
      rfl
    by_cases hmem : .ofList (leadingName content) ∈ names
    · cases hends : endsName (afterName content) with
      | true =>
        rw [if_pos ⟨hmem, rfl⟩]
        exact ⟨fun _ => ⟨not_overlooked_of_ends hnames hp hends, htaken⟩, fun _ => repointed_renamed hnames hp hsteps hmem n⟩
      | false =>
        rw [if_neg (by simp)]
        have hoverlooked := overlooked_of_not_ends hp hsteps hmem hends
        exact ⟨fun h => absurd h (not_repointed_self hp (hroot ▸ hmem) n), fun h => absurd hoverlooked h.1⟩
    · rw [if_neg fun h => hmem h.1]
      refine ⟨fun _ => ⟨fun h => hmem ?_, htaken⟩, fun _ => (hfree (hroot ▸ hmem) content).2 rfl⟩
      rw [(property_name hp (hnames _ h.1)).1, String.ofList_toList]
      exact h.1

/-- The placeholders of a text after a loop has renamed them, side by side with those before. Each that is accepted has the alias for
its root exactly if its root was a name of the loop, unless the loop overlooks it or takes it for its own. -/
theorem placeholders_repointed_iff (n : Nat) (s : String) :
    List.Forall₂ (fun content content' => ∀ p, Placeholder.parse content = .ok p →
        (Repointed names n content content' p ↔ ¬ Overlooked names content p ∧ ¬ Taken names p))
      (placeholder.tokens s) (placeholder.tokens (renamePlaceholders names n s)) := by
  rw [tokens_renamePlaceholders hnames, List.forall₂_map_right_iff, List.forall₂_same]
  exact fun content _ p hp => repointed_iff hnames hp n

end Ownership

theorem placeholders_repointed_iff_around : (∀ x ∈ ["x"], IsLoopName x) ∧
    let s := "#\x7b x[0] :DATE, mode=OUT\x7d #\x7bxy\x7d"
    let s' := "#\x7b__frch_x_7[0] :DATE, mode=OUT\x7d #\x7bxy\x7d"
    renamePlaceholders ["x"] 7 s = s' ∧
      List.Forall₂ (fun content content' => ∀ p, Placeholder.parse content = .ok p →
          (Repointed ["x"] 7 content content' p ↔ ¬ Overlooked ["x"] content p ∧ ¬ Taken ["x"] p))
        (placeholder.tokens s) (placeholder.tokens s') := by
  have hnames : ∀ x ∈ ["x"], IsLoopName x := by
    intro x hx
    rw [List.mem_singleton.1 hx]
    decide
  have hrename : renamePlaceholders ["x"] 7 "#\x7b x[0] :DATE, mode=OUT\x7d #\x7bxy\x7d" =
      "#\x7b__frch_x_7[0] :DATE, mode=OUT\x7d #\x7bxy\x7d" := by decide +kernel
  refine ⟨hnames, hrename, ?_⟩
  rw [← hrename]
  exact placeholders_repointed_iff hnames 7 _

/-- A no-break space after the name hides it from the loop. A space lets the loop take a name that is only the front of another. -/
theorem not_repointed :
    let s := "#\x7bx\u00a0\x7d #\x7bx y\x7d"
    placeholder.tokens s = ["x\u00a0", "x y"] ∧ placeholder.tokens (renamePlaceholders ["x"] 0 s) = ["x\u00a0", "__frch_x_0 y"] ∧
      Placeholder.parse "x\u00a0" = .ok ⟨"x", none, []⟩ ∧ ¬ Repointed ["x"] 0 "x\u00a0" "x\u00a0" ⟨"x", none, []⟩ ∧
      Placeholder.parse "x y" = .ok ⟨"x y", none, []⟩ ∧ ¬ Repointed ["x"] 0 "x y" "__frch_x_0 y" ⟨"x y", none, []⟩ := by
  have hoverlooked : Placeholder.parse "x\u00a0" = .ok ⟨"x", none, []⟩ := by rfl
  refine ⟨by decide +kernel, by decide +kernel, hoverlooked, ?_, by rfl, ?_⟩
  · exact not_repointed_self hoverlooked (by decide +kernel) 0
  · intro h
    exact absurd ((if_neg (by decide +kernel)).mp h) (by decide)

end SqlTemplate
