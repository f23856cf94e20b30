import SqlTemplate.Proofs.Text.Blank
import SqlTemplate.Text.Reading

/-! # What readers take

A reader that takes a run of characters stops where the text after it does not go on with one. A list is read item by item up to
what closes it.
-/

namespace SqlTemplate.Text

/-- A run of characters ends where the text after it does not go on with one. -/
theorem run_split {p : Char → Bool} {run rest : List Char} (hrun : ∀ c ∈ run, p c = true) (hrest : ∀ c ∈ rest.head?, p c = false) :
    (run ++ rest).takeWhile p = run ∧ (run ++ rest).dropWhile p = rest := by
  rw [List.takeWhile_append_of_pos hrun, List.dropWhile_append_of_pos hrun, dropWhile_self hrest]
  cases rest with
  | nil => simp
  | cons c rest =>
    rw [List.takeWhile_cons_of_neg (by simp [hrest c rfl]), List.append_nil]
    exact ⟨rfl, rfl⟩

theorem run_whole {p : Char → Bool} {run : List Char} (h : ∀ c ∈ run, p c = true) :
    run.takeWhile p = run ∧ run.dropWhile p = [] :=
  ⟨List.takeWhile_eq_self_iff.2 h, List.dropWhile_eq_nil_iff.2 h⟩

theorem skipGaps_self {s : List Char} (h : ∀ c ∈ s.head?, isGap c = false) : skipGaps s = s := dropWhile_self h

theorem skipGaps_space (s : List Char) : skipGaps (' ' :: s) = skipGaps s := rfl

namespace Reader

variable {ε α β : Type} {p q : Reader ε α} {s rest : List Char} {a : α} {e : ε}

theorem bind_done (h : p s = .done a rest) (f : α → Reader ε β) : (p >>= f) s = f a rest := by
  change Reader.bind p f s = f a rest
  rw [Reader.bind, h]

theorem bind_mismatch (h : p s = .mismatch e) (f : α → Reader ε β) : (p >>= f) s = .mismatch e := by
  change Reader.bind p f s = .mismatch e
  rw [Reader.bind, h]

theorem bind_failure (h : p s = .failure e) (f : α → Reader ε β) : (p >>= f) s = .failure e := by
  change Reader.bind p f s = .failure e
  rw [Reader.bind, h]

theorem orElse_done (h : p s = .done a rest) : (p <|> q) s = .done a rest := by
  change Reader.orElse p q s = .done a rest
  rw [Reader.orElse, h]

theorem orElse_mismatch (h : p s = .mismatch e) : (p <|> q) s = q s := by
  change Reader.orElse p q s = q s
  rw [Reader.orElse, h]

theorem orElse_failure (h : p s = .failure e) : (p <|> q) s = .failure e := by
  change Reader.orElse p q s = .failure e
  rw [Reader.orElse, h]

theorem gaps_done (s : List Char) : (gaps : Reader ε Unit) s = .done () (skipGaps s) := rfl

theorem spaced_done (h : p (skipGaps s) = .done a rest) : spaced p s = .done a (skipGaps rest) := by
  unfold spaced
  rw [bind_done (gaps_done s), bind_done h]
  rfl

theorem spaced_mismatch (h : p (skipGaps s) = .mismatch e) : spaced p s = .mismatch e := by
  unfold spaced
  rw [bind_done (gaps_done s), bind_mismatch h]

theorem spaced_failure (h : p (skipGaps s) = .failure e) : spaced p s = .failure e := by
  unfold spaced
  rw [bind_done (gaps_done s), bind_failure h]

/-! ## What readers give -/

section Yields

variable {P : α → Prop} {Q : β → Prop}

/-- All values that the reader takes have the property. -/
def Yields (P : α → Prop) (p : Reader ε α) : Prop := ∀ ⦃s a rest⦄, p s = .done a rest → P a

theorem Yields.any (p : Reader ε α) : Yields (fun _ => True) p := fun _ _ _ _ => trivial

theorem Yields.pure (h : P a) : Yields P (pure a : Reader ε α) := by
  rintro s b rest ⟨⟩
  exact h

theorem Yields.bind {f : α → Reader ε β} (hp : Yields P p) (hf : ∀ a, P a → Yields Q (f a)) : Yields Q (p >>= f) := by
  intro s b rest h
  cases hread : p s with
  | done a r =>
    rw [bind_done hread] at h
    exact hf a (hp hread) h
  | mismatch e =>
    rw [bind_mismatch hread] at h
    cases h
  | failure e =>
    rw [bind_failure hread] at h
    cases h

theorem Yields.orElse (hp : Yields P p) (hq : Yields P q) : Yields P (p <|> q) := by
  intro s a rest h
  cases hread : p s with
  | done b r =>
    rw [orElse_done hread] at h
    cases h
    exact hp hread
  | mismatch e =>
    rw [orElse_mismatch hread] at h
    exact hq h
  | failure e =>
    rw [orElse_failure hread] at h
    cases h

theorem Yields.spaced (h : Yields P p) : Yields P (spaced p) :=
  (Yields.any gaps).bind fun _ _ => h.bind fun _ ha => (Yields.any gaps).bind fun _ _ => .pure ha

theorem Yields.cons (h : P a) {more : Reader ε (List α)} (hmore : Yields (∀ a ∈ ·, P a) more) :
    Yields (∀ a ∈ ·, P a) (more >>= fun items => Pure.pure (a :: items)) :=
  hmore.bind fun _ hitems => .pure (List.forall_mem_cons.2 ⟨h, hitems⟩)

theorem Yields.moreItems (h : Yields P p) (fuel : Nat) : Yields (∀ a ∈ ·, P a) (moreItems p fuel) := by
  induction fuel with
  | zero => exact .pure fun _ ha => by cases ha
  | succ fuel ih =>
    intro s items rest hread
    unfold Reader.moreItems at hread
    split at hread
    · split at hread
      · rename_i hitem
        exact ih.cons (h hitem) hread
      · cases hread
        exact fun _ ha => by cases ha
      · cases hread
    · cases hread
      exact fun _ ha => by cases ha

theorem Yields.itemList (h : Yields P p) : Yields (∀ a ∈ ·, P a) (itemList p) := by
  intro s items rest hread
  unfold Reader.itemList at hread
  split at hread
  · rename_i hitem
    exact (h.moreItems _).cons (h hitem) hread
  · cases hread
    exact fun _ ha => by cases ha
  · cases hread

end Yields

/-! ## Lists -/

section Items

variable {item : Reader ε α} {write : α → List Char} {items : List α}

/-- The text of the items after the first. -/
def moreText (write : α → List Char) (items : List α) : List Char := items.flatMap fun a => ',' :: ' ' :: write a

theorem moreText_cons (write : α → List Char) (a : α) (items : List α) :
    moreText write (a :: items) = ',' :: ' ' :: (write a ++ moreText write items) := by
  rw [moreText, List.flatMap_cons]
  rfl

/-- What stands after an item is a comma or what closes the list. -/
theorem moreText_head (write : α → List Char) (items : List α) (rest : List Char) :
    (moreText write items ++ rest).head? = some ',' ∨ moreText write items ++ rest = rest := by
  cases items with
  | nil => exact .inr rfl
  | cons b items => exact .inl rfl

theorem length_le_moreText (write : α → List Char) (items : List α) : items.length ≤ (moreText write items).length := by
  induction items with
  | nil => exact Nat.zero_le _
  | cons a items ih =>
    rw [moreText_cons]
    simp only [List.length_cons, List.length_append]
    omega

theorem intercalate_items (write : α → List Char) (a : α) (items : List α) :
    [',', ' '].intercalate ((a :: items).map write) = write a ++ moreText write items := by
  induction items generalizing a with
  | nil => simp [moreText]
  | cons b items ih =>
    rw [List.map_cons, List.map_cons, List.intercalate_cons_cons, ← List.map_cons, ih, moreText_cons, List.append_assoc]
    rfl

theorem length_le_intercalate (write : α → List Char) {a : α} {items : List α} (h : a ∈ items) :
    (write a).length ≤ ([',', ' '].intercalate (items.map write)).length := by
  have hmore {items : List α} (h : a ∈ items) : (write a).length ≤ (moreText write items).length := by
    induction items with
    | nil => cases h
    | cons b items ih =>
      rw [moreText_cons]
      simp only [List.length_cons, List.length_append]
      rcases List.mem_cons.1 h with rfl | h
      · omega
      · have hitems := ih h
        omega
  cases items with
  | nil => cases h
  | cons b items =>
    rw [intercalate_items, List.length_append]
    rcases List.mem_cons.1 h with rfl | h
    · exact Nat.le_add_right _ _
    · have hitems := hmore h
      omega

theorem moreItems_cons {after : List Char} (h : item after = .done a rest) (fuel : Nat) :
    moreItems item (fuel + 1) (',' :: after) = (moreItems item fuel >>= fun items => pure (a :: items)) rest := by
  simp only [moreItems, h]

theorem moreItems_done (hspace : ∀ s, item (' ' :: s) = item s)
    (hread : ∀ a ∈ items, ∀ next, next.head? = some ',' ∨ next = rest → item (write a ++ next) = .done a next)
    (hrest : rest.head? ≠ some ',') {fuel : Nat} (hfuel : items.length ≤ fuel) :
    moreItems item fuel (moreText write items ++ rest) = .done items rest := by
  induction items generalizing fuel with
  | nil =>
    cases fuel with
    | zero => rfl
    | succ fuel =>
      change moreItems item (fuel + 1) rest = .done [] rest
      unfold moreItems
      split
      · simp at hrest
      · rfl
  | cons a items ih =>
    obtain ⟨fuel, rfl⟩ : ∃ n, fuel = n + 1 := Nat.exists_eq_add_of_le' (by simp at hfuel; omega)
    have hfirst := hread a List.mem_cons_self _ (moreText_head write items rest)
    rw [List.forall_mem_cons] at hread
    have hmore := ih hread.2 (Nat.le_of_succ_le_succ hfuel)
    rw [moreText_cons, List.cons_append, List.cons_append, List.append_assoc, moreItems_cons ((hspace _).trans hfirst),
      bind_done hmore]
    rfl

/-- Items with a comma and a space between them are read up to `rest`, which closes the list. -/
theorem itemList_done (hspace : ∀ s, item (' ' :: s) = item s)
    (hread : ∀ a ∈ items, ∀ next, next.head? = some ',' ∨ next = rest → item (write a ++ next) = .done a next)
    (hrest : rest.head? ≠ some ',') (hnone : item rest = .mismatch e) :
    itemList item ([',', ' '].intercalate (items.map write) ++ rest) = .done items rest := by
  cases items with
  | nil =>
    change itemList item rest = .done [] rest
    rw [itemList, hnone]
  | cons a items =>
    have hfirst := hread a List.mem_cons_self _ (moreText_head write items rest)
    rw [List.forall_mem_cons] at hread
    have hfuel : items.length ≤ (moreText write items ++ rest).length := by
      have hlength := length_le_moreText write items
      rw [List.length_append]
      omega
    rw [intercalate_items, List.append_assoc, itemList, hfirst]
    dsimp only
    rw [bind_done (moreItems_done hspace hread.2 hrest hfuel)]
    rfl

end Items

end Reader

end SqlTemplate.Text
