import SqlTemplate.Proofs.Text.Blank
import SqlTemplate.Proofs.Token.Contents

/-! # Putting texts together

Texts whose placeholders are closed can be put side by side without changing one another's placeholders, unless one of them
ends in the beginning of an opening delimiter or in a backslash. Trimming and shrinking keep this so.
-/

namespace SqlTemplate.Glyph

def blank : Glyph → Bool
  | .char c => Text.isBlank c
  | _ => false

/-- The unit does not change the meaning of one that comes after it. -/
def settled : Glyph → Bool
  | .char c => c != '#' && c != '\\'
  | _ => true

/-- The last unit is settled, whatever blanks come after it. -/
def EndsWell : List Glyph → Prop
  | [] => True
  | g :: gs => ((∀ h ∈ gs, blank h = true) → settled g = true) ∧ EndsWell gs

/-- The units stay apart from each other and from whatever comes after. -/
structure Tidy (gs : List Glyph) : Prop where
  sound : Sound gs
  ending : EndsWell gs

variable {g : Glyph} {gs hs : List Glyph}

theorem settled_of_blank (h : blank g = true) : settled g = true := by
  cases g with
  | char c =>
    rw [settled, Bool.and_eq_true, bne_iff_ne, bne_iff_ne]
    constructor
    · rintro rfl
      cases h
    · rintro rfl
      cases h
  | _ => rfl

theorem follows_of_settled (h : settled g = true) (g' : Glyph) : Follows g g' := by
  unfold Follows
  split <;> simp_all [settled]

theorem source_edges (h : blank g = false) :
    (∀ c ∈ g.source.head?, Text.isBlank c = false) ∧ ∀ c ∈ g.source.getLast?, Text.isBlank c = false := by
  cases g with
  | char c => exact ⟨fun d hd => by cases hd; exact h, fun d hd => by cases hd; exact h⟩
  | escape => exact ⟨fun d hd => by cases hd; rfl, fun d hd => by cases hd; rfl⟩
  | token raw =>
    refine ⟨fun d hd => by cases hd; rfl, fun d hd => ?_⟩
    have hlast : source (token raw) = '#' :: '{' :: raw ++ ['}'] := rfl
    rw [hlast, List.getLast?_concat] at hd
    cases hd
    rfl

theorem text_blank (h : ∀ g ∈ gs, blank g = true) : ∀ c ∈ text gs, Text.isBlank c = true := by
  intro c hc
  obtain ⟨g, hg, hc⟩ := List.mem_flatMap.1 hc
  have hb := h g hg
  cases g with
  | char d =>
    cases List.mem_singleton.1 hc
    exact hb
  | _ => cases hb

theorem blank_mapRaw (f : List Char → List Char) (g : Glyph) : blank (mapRaw f g) = blank g := by cases g <;> rfl

/-- Only characters can be blank. -/
theorem text_blank_iff : (∀ c ∈ text gs, Text.isBlank c = true) ↔ ∀ g ∈ gs, blank g = true := by
  refine ⟨fun h g hg => ?_, text_blank⟩
  have hsource : ∀ c ∈ g.source, Text.isBlank c = true := fun c hc => h c (List.mem_flatMap.2 ⟨g, hg, hc⟩)
  cases g with
  | char c => exact hsource c List.mem_cons_self
  | _ => cases hsource _ List.mem_cons_self

theorem raws_blank (h : ∀ g ∈ gs, blank g = true) : raws gs = [] := by
  induction gs with
  | nil => rfl
  | cons g gs ih =>
    rw [List.forall_mem_cons] at h
    cases g with
    | char c => exact ih h.2
    | _ => cases h.1

namespace EndsWell

theorem last (h : EndsWell gs) : ∀ g ∈ gs.getLast?, settled g = true := by
  induction gs with
  | nil => simp
  | cons g gs ih =>
    cases gs with
    | nil =>
      rintro _ ⟨⟩
      exact h.1 (by simp)
    | cons g' gs => exact ih h.2

theorem append (hg : EndsWell gs) (hh : EndsWell hs) : EndsWell (gs ++ hs) := by
  induction gs with
  | nil => exact hh
  | cons g gs ih => exact ⟨fun hblank => hg.1 fun x hx => hblank x (List.mem_append_left _ hx), ih hg.2⟩

theorem blanks (h : ∀ g ∈ gs, blank g = true) : EndsWell gs := by
  induction gs with
  | nil => trivial
  | cons g gs ih =>
    rw [List.forall_mem_cons] at h
    exact ⟨fun _ => settled_of_blank h.1, ih h.2⟩

theorem of_last (h : ∀ g ∈ gs.getLast?, blank g = false ∧ settled g = true) : EndsWell gs := by
  induction gs with
  | nil => trivial
  | cons g gs ih =>
    cases gs with
    | nil => exact ⟨fun _ => (h g rfl).2, trivial⟩
    | cons g' gs =>
      rw [List.getLast?_cons_cons] at h
      refine ⟨fun hblank => ?_, ih h⟩
      have hlast := List.getLast?_eq_some_getLast (List.cons_ne_nil g' gs)
      have hnot := (h _ hlast).1
      rw [hblank _ (List.getLast_mem _)] at hnot
      cases hnot

theorem of_append_blank (h : EndsWell (gs ++ hs)) (hblank : ∀ x ∈ hs, blank x = true) : EndsWell gs := by
  induction gs with
  | nil => trivial
  | cons g gs ih =>
    exact ⟨fun hrest => h.1 fun x hx => (List.mem_append.1 hx).elim (hrest x) (hblank x), ih h.2⟩

theorem of_suffix (h : EndsWell gs) (hs' : hs <:+ gs) : EndsWell hs := by
  obtain ⟨front, rfl⟩ := hs'
  induction front with
  | nil => exact h
  | cons g front ih => exact ih h.2

theorem map (h : EndsWell gs) (f : List Char → List Char) : EndsWell (gs.map (mapRaw f)) := by
  induction gs with
  | nil => trivial
  | cons g gs ih =>
    have hsettled : settled (mapRaw f g) = settled g := by cases g <;> rfl
    refine ⟨fun hrest => hsettled.trans (h.1 fun x hx => ?_), ih h.2⟩
    exact (blank_mapRaw f x).symm.trans (hrest _ (List.mem_map_of_mem hx))

end EndsWell

namespace Sound

theorem left (h : Sound (gs ++ hs)) : Sound gs :=
  ⟨h.chain.left_of_append, fun raw hmem => h.enclosed raw (List.mem_append_left _ hmem)⟩

theorem of_suffix (h : Sound gs) (hs' : hs <:+ gs) : Sound hs :=
  ⟨h.chain.suffix hs', fun raw hmem => h.enclosed raw (hs'.subset hmem)⟩

end Sound

namespace Tidy

theorem nil : Tidy [] := ⟨.nil, trivial⟩

theorem append (hg : Tidy gs) (hh : Tidy hs) : Tidy (gs ++ hs) :=
  ⟨hg.sound.append hh.sound fun x hx y _ => follows_of_settled (hg.ending.last x hx) y, hg.ending.append hh.ending⟩

theorem intercalate {sep : List Glyph} (hsep : Tidy sep) {gss : List (List Glyph)} (h : ∀ gs ∈ gss, Tidy gs) :
    Tidy (sep.intercalate gss) := by
  induction gss with
  | nil => exact nil
  | cons gs gss ih =>
    rw [List.forall_mem_cons] at h
    cases gss with
    | nil =>
      rw [List.intercalate_singleton]
      exact h.1
    | cons gs' gss =>
      rw [List.intercalate_cons_cons]
      exact (h.1.append hsep).append (ih h.2)

theorem space : Tidy (chars [' ']) := ⟨sound_chars rfl, fun _ => rfl, trivial⟩

theorem map (h : Tidy gs) {f : List Char → List Char}
    (hf : ∀ raw ∈ raws gs, encloses raw = true → encloses (f raw) = true) : Tidy (gs.map (mapRaw f)) :=
  ⟨h.sound.map hf, h.ending.map f⟩

end Tidy

/-! ## Trimming -/

/-- The units without the blanks around them. -/
def trimmed (gs : List Glyph) : List Glyph := (gs.dropWhile blank).rdropWhile blank

theorem text_dropWhile (gs : List Glyph) : text (gs.dropWhile blank) = Text.trimStart (text gs) := by
  induction gs with
  | nil => rfl
  | cons g gs ih =>
    cases h : blank g with
    | true =>
      rw [List.dropWhile_cons_of_pos h, ih, text_cons, Text.trimStart_append]
      have hblank : ∀ g' ∈ [g], blank g' = true := by simpa using h
      simpa using text_blank hblank
    | false =>
      rw [List.dropWhile_cons_of_neg (by simp [h]), text_cons]
      have hsource : g.source ≠ [] := by cases g <;> simp [source]
      refine (Text.trimStart_self fun c hc => (source_edges h).1 c ?_).symm
      rwa [List.head?_append_of_ne_nil _ hsource] at hc

theorem text_rdropWhile (gs : List Glyph) : text (gs.rdropWhile blank) = Text.trimEnd (text gs) := by
  induction gs using List.reverseRecOn with
  | nil => rfl
  | append_singleton gs g ih =>
    have htext : text [g] = g.source := List.append_nil _
    rw [List.rdropWhile_concat, text_append, htext, Text.trimEnd_append]
    cases h : blank g with
    | true =>
      have hsource : ∀ c ∈ g.source, Text.isBlank c = true := htext ▸ text_blank (by simpa using h)
      rw [Text.trimEnd_blank hsource]
      exact ih
    | false =>
      have hsource : g.source ≠ [] := by cases g <;> simp [source]
      rw [Text.trimEnd_self (source_edges h).2, if_neg (by simp), text_append, htext, if_neg (by simpa using hsource)]

theorem text_trimmed (gs : List Glyph) : text (trimmed gs) = Text.trim (text gs) := by
  rw [trimmed, text_rdropWhile, text_dropWhile]
  rfl

theorem eq_trimmed (gs : List Glyph) :
    ∃ before after, (∀ g ∈ before, blank g = true) ∧ (∀ g ∈ after, blank g = true) ∧ gs = before ++ (trimmed gs ++ after) := by
  refine ⟨gs.takeWhile blank, (gs.dropWhile blank).rtakeWhile blank, fun g hg => List.mem_takeWhile_imp hg,
    fun g hg => List.mem_rtakeWhile_imp hg, ?_⟩
  rw [trimmed, List.rdropWhile_append_rtakeWhile, List.takeWhile_append_dropWhile]

theorem raws_trimmed (gs : List Glyph) : raws (trimmed gs) = raws gs := by
  obtain ⟨before, after, hbefore, hafter, heq⟩ := eq_trimmed gs
  conv_rhs => rw [heq, raws_append, raws_append, raws_blank hbefore, raws_blank hafter, List.append_nil, List.nil_append]

theorem Sound.trimmed (h : Sound gs) : Sound (trimmed gs) := by
  obtain ⟨before, after, -, -, heq⟩ := eq_trimmed gs
  rw [heq] at h
  exact (h.of_suffix (List.suffix_append before _)).left

theorem Tidy.trimmed (h : Tidy gs) : Tidy (trimmed gs) := by
  refine ⟨h.sound.trimmed, ?_⟩
  obtain ⟨before, after, -, hafter, heq⟩ := eq_trimmed gs
  have hending := h.ending
  rw [heq] at hending
  exact (hending.of_suffix (List.suffix_append before _)).of_append_blank hafter

theorem endsWell_of_trim (h : ∀ c ∈ (Text.trim (text gs)).getLast?, c ≠ '#' ∧ c ≠ '\\') : EndsWell gs := by
  rw [← text_trimmed] at h
  obtain ⟨before, after, hbefore, hafter, heq⟩ := eq_trimmed gs
  rw [heq]
  refine (EndsWell.blanks hbefore).append (.append (.of_last fun g hg => ?_) (.blanks hafter))
  obtain ⟨front, hfront⟩ := List.getLast?_eq_some_iff.1 hg
  -- The last unit that is left by trimming is not blank, so that it decides alone.
  have hnot : blank g = false := by
    have hne : trimmed gs ≠ [] := by simp [hfront]
    have hlast := List.rdropWhile_last_not blank (gs.dropWhile blank) hne
    rw [List.getLast?_eq_some_getLast hne] at hg
    cases hg
    exact Bool.of_not_eq_true hlast
  refine ⟨hnot, ?_⟩
  cases g with
  | char c =>
    have hc := h c (by rw [hfront, text_append]; exact List.getLast?_concat)
    simp [settled, hc]
  | _ => rfl

end SqlTemplate.Glyph
