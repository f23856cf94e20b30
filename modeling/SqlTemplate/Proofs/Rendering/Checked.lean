import SqlTemplate.Proofs.Rendering.Renaming
import SqlTemplate.Proofs.Rendering.Turn
import SqlTemplate.Proofs.Token.Clear

/-! # Checking the texts of a template

A check that holds of every text of a template and of every value put into it holds of all that a rendering writes, if it survives
what a rendering does to texts. The check of placeholders one by one does so in clear texts.
-/

namespace SqlTemplate

open SqlTemplate.Computation Text

/-- A check that survives what a rendering does to texts. -/
structure Lasting (check : String → Bool) : Prop where
  space : check " " = true
  append : ∀ {s t}, check s = true → check t = true → check (s ++ t) = true
  trim : ∀ {s}, check s = true → check (trimString s) = true
  strip : ∀ {c : Clause} {s}, (∀ override ∈ c.leadOverrides ++ c.tailOverrides, isPlainOverride override = true) →
    check s = true → check (.ofList (c.strip s.toList)) = true
  rename : ∀ {names} (n : Nat) {s}, (∀ x ∈ names, IsLoopName x) → check s = true → check (renamePlaceholders names n s) = true

namespace Lasting

variable {check : String → Bool} (hcheck : Lasting check)

include hcheck

theorem empty : check "" = true := hcheck.trim hcheck.space

theorem intercalate {separator : String} (hseparator : check separator = true) {texts : List String}
    (htexts : ∀ s ∈ texts, check s = true) : check (separator.intercalate texts) = true := by
  induction texts with
  | nil => exact hcheck.empty
  | cons s texts ih =>
    rw [List.forall_mem_cons] at htexts
    cases texts with
    | nil =>
      rw [String.intercalate_singleton]
      exact htexts.1
    | cons t texts =>
      rw [String.intercalate_cons_cons]
      exact hcheck.append (hcheck.append htexts.1 hseparator) (ih htexts.2)

end Lasting

/-! ## The texts of a template and the values put into it -/

namespace Segment

def text? : Segment → Option String
  | .text s => some s
  | .expr _ => none

/-- What the segment puts in for an expression. -/
def value? (b : Bindings) : Segment → Option String
  | .text _ => none
  | .expr e => (e.eval b).toOption.map fun v => if v.isNull then "" else v.text

end Segment

def Clause.isChecked (check : String → Bool) (c : Clause) : Bool :=
  [c.lead, c.tail].all (fun s => check (s.getD "")) && (c.leadOverrides ++ c.tailOverrides).all isPlainOverride

def Loop.isChecked (check : String → Bool) (l : Loop) : Bool :=
  l.names.all (fun x => IsLoopName x) && [l.opening, l.separator, l.closing].all fun s => check (s.getD "")

namespace Node

mutual

/-- Every text of the template passes the check, no override reaches into a placeholder, and the loops go by names. -/
def isChecked (check : String → Bool) : Node → Bool
  | .text s => check s
  | .substituted _ segments => (segments.filterMap Segment.text?).all check
  | .conditional _ body => body.isChecked check
  | .choose whens otherwise => whensChecked check whens && otherwiseChecked check otherwise
  | .clause _ c body => c.isChecked check && body.isChecked check
  | .loop l body => l.isChecked check && body.isChecked check
  | .bind _ _ => true
  | .sequence nodes => allChecked check nodes

def allChecked (check : String → Bool) : List Node → Bool
  | [] => true
  | n :: nodes => n.isChecked check && allChecked check nodes

def whensChecked (check : String → Bool) : List (Expr × Node) → Bool
  | [] => true
  | (_, body) :: whens => body.isChecked check && whensChecked check whens

def otherwiseChecked (check : String → Bool) : Option Node → Bool
  | none => true
  | some body => body.isChecked check

end

mutual

/-- The values that a rendering from a context puts into texts. -/
def inserted : Node → Context → List String
  | .text _, _ | .bind _ _, _ => []
  | .substituted _ segments, c => segments.filterMap (Segment.value? (run Render.bindScalar c).2.bindings)
  | .conditional test body, c =>
    match Expr.evalTest c.bindings test with
    | .ok true => body.inserted c
    | _ => []
  | .choose whens otherwise, c => insertedWhens whens (insertedOtherwise otherwise c) c
  | .clause _ _ body, c => body.inserted { c with fragments := [] }
  | .loop l body, c => ((l.turns body.render ((l.entriesAt c).getD []) c)).flatMap fun t => body.inserted t.start
  | .sequence nodes, c => insertedAll nodes c

def insertedAll : List Node → Context → List String
  | [], _ => []
  | n :: nodes, c => n.inserted c ++ insertedAll nodes (run n.render c).2

/-- The values of the branch that is taken, which may be the one besides those with tests. -/
def insertedWhens : List (Expr × Node) → List String → Context → List String
  | [], others, _ => others
  | (test, body) :: whens, others, c =>
    match Expr.evalTest c.bindings test with
    | .ok true => body.inserted c
    | _ => insertedWhens whens others c

def insertedOtherwise : Option Node → Context → List String
  | none, _ => []
  | some body, c => body.inserted c

end

end Node

/-! ## What is written -/

section

variable {check : String → Bool} {c d : Context}

theorem append_checked (h : ∀ s ∈ c.fragments, check s = true) {s : String} (hs : check s = true) :
    ∀ t ∈ (c.append s).fragments, check t = true := by
  intro t ht
  rw [Context.append, List.mem_append, List.mem_singleton] at ht
  rcases ht with ht | rfl
  · exact h t ht
  · exact hs

namespace Node

theorem forall_allChecked {nodes : List Node} (h : allChecked check nodes = true) : ∀ n ∈ nodes, n.isChecked check = true := by
  induction nodes with
  | nil => simp
  | cons n nodes ih =>
    rw [allChecked, Bool.and_eq_true] at h
    exact List.forall_mem_cons.2 ⟨h.1, ih h.2⟩

theorem forall_whensChecked {whens : List (Expr × Node)} (h : whensChecked check whens = true) :
    ∀ w ∈ whens, w.2.isChecked check = true := by
  induction whens with
  | nil => simp
  | cons w whens ih =>
    obtain ⟨test, body⟩ := w
    rw [whensChecked, Bool.and_eq_true] at h
    exact List.forall_mem_cons.2 ⟨h.1, ih h.2⟩

/-- What is known of a rendering of the node. -/
def PassesOn (check : String → Bool) (n : Node) : Prop :=
  ∀ c d a, run n.render c = (.ok a, d) → (∀ s ∈ c.fragments, check s = true) →
    (∀ v ∈ n.inserted c, check v = true) → ∀ s ∈ d.fragments, check s = true

theorem renderAll_checked {nodes : List Node} (h : ∀ n ∈ nodes, n.PassesOn check) (hrun : run (renderAll nodes) c = (.ok ⟨⟩, d))
    (hc : ∀ s ∈ c.fragments, check s = true) (hvalues : ∀ v ∈ insertedAll nodes c, check v = true) :
    ∀ s ∈ d.fragments, check s = true := by
  induction nodes generalizing c with
  | nil =>
    obtain rfl := renderAll_nil_ok.1 hrun
    exact hc
  | cons n nodes ih =>
    rw [List.forall_mem_cons] at h
    obtain ⟨a, e, hn, hrest⟩ := renderAll_cons_ok.1 hrun
    rw [insertedAll, hn, List.forall_mem_append] at hvalues
    exact ih h.2 hrest (h.1 _ _ _ hn hc hvalues.1) hvalues.2

/-- The branches with tests, and then what the choice does without them. -/
theorem renderWhens_checked {whens : List (Expr × Node)} (h : ∀ w ∈ whens, w.2.PassesOn check) {others : List String} {a : Bool}
    (hrun : run (renderWhens whens) c = (.ok a, d)) (hc : ∀ s ∈ c.fragments, check s = true)
    (hvalues : ∀ v ∈ insertedWhens whens others c, check v = true) :
    if a then ∀ s ∈ d.fragments, check s = true else ∀ v ∈ others, check v = true := by
  induction whens with
  | nil =>
    obtain ⟨rfl, -⟩ := renderWhens_nil_ok.1 hrun
    exact hvalues
  | cons w whens ih =>
    obtain ⟨test, body⟩ := w
    rw [List.forall_mem_cons] at h
    obtain ⟨t, htest, hrest⟩ := renderWhens_cons_ok.1 hrun
    rw [insertedWhens, htest] at hvalues
    cases t with
    | true =>
      obtain ⟨rfl, _, hbody⟩ := hrest
      exact h.1 _ _ _ hbody hc hvalues
    | false => exact ih h.2 hrest hvalues

end Node

variable (hcheck : Lasting check)

include hcheck

theorem segmentsText_checked {b : Bindings} {segments : List Segment} {s : String} (h : segmentsText b segments = .ok s)
    (htexts : ∀ t ∈ segments.filterMap Segment.text?, check t = true)
    (hvalues : ∀ v ∈ segments.filterMap (Segment.value? b), check v = true) : check s = true := by
  induction segments generalizing s with
  | nil =>
    cases h
    exact hcheck.empty
  | cons segment segments ih =>
    cases segment with
    | text t =>
      obtain ⟨rest, hrest, rfl⟩ := except_map_ok.1 h
      have htext : Segment.text? (.text t) = some t := rfl
      rw [List.filterMap_cons_some htext, List.forall_mem_cons] at htexts
      exact hcheck.append htexts.1 (ih hrest htexts.2 hvalues)
    | expr e =>
      obtain ⟨v, hv, h⟩ := except_bind_ok.1 h
      obtain ⟨rest, hrest, h⟩ := except_bind_ok.1 h
      cases h
      have hvalue : Segment.value? b (.expr e) = some (if v.isNull then "" else v.text) := by
        rw [Segment.value?, hv]
        rfl
      rw [List.filterMap_cons_some hvalue, List.forall_mem_cons] at hvalues
      exact hcheck.append hvalues.1 (ih hrest htexts hvalues.2)

theorem wrap?_checked {cl : Clause} (hcl : cl.isChecked check = true) {text : String} (htext : check text = true) :
    ∀ s ∈ cl.wrap? text, check s = true := by
  rw [Clause.isChecked, Bool.and_eq_true, List.all_eq_true, List.all_eq_true] at hcl
  obtain ⟨hparts, hoverrides⟩ := hcl
  have hbefore : check (Clause.before cl.lead) = true := by
    cases hlead : cl.lead with
    | none => exact hcheck.empty
    | some s =>
      have hs := hparts cl.lead (by simp)
      rw [hlead] at hs
      exact hcheck.append hs hcheck.space
  have hafter : check (Clause.after cl.tail) = true := by
    cases htail : cl.tail with
    | none => exact hcheck.empty
    | some s =>
      have hs := hparts cl.tail (by simp)
      rw [htail] at hs
      exact hcheck.append hcheck.space hs
  intro s hs
  unfold Clause.wrap? at hs
  dsimp only at hs
  split at hs
  · cases hs
  · cases hs
    exact hcheck.append (hcheck.append hbefore (hcheck.strip hoverrides htext)) hafter

theorem fragments_checked (h : ∀ s ∈ c.fragments, check s = true) : check (" ".intercalate c.fragments) = true :=
  hcheck.intercalate hcheck.space h

namespace Loop

variable {l : Loop} (hl : l.isChecked check = true) {body : Render Bool}

include hl

theorem iterate_checked {entries : List (Value × Value)} {bodies : List String} (h : run (l.iterate body entries) c = (.ok bodies, d))
    (hbody : ∀ t ∈ l.turns body entries c, ∀ a inner, run body t.start = (.ok a, inner) → ∀ s ∈ inner.fragments, check s = true) :
    d.fragments = c.fragments ∧ ∀ s ∈ bodies, check s = true := by
  rw [isChecked, Bool.and_eq_true, List.all_eq_true] at hl
  induction entries generalizing c bodies with
  | nil =>
    obtain ⟨rfl, rfl⟩ := iterate_nil_ok.1 h
    exact ⟨rfl, by simp⟩
  | cons entry entries ih =>
    obtain ⟨key, value⟩ := entry
    obtain ⟨a, inner, rest, hrun, hrest, rfl⟩ := iterate_cons_ok.1 h
    rw [turns_cons_ok hrun, List.forall_mem_cons] at hbody
    obtain ⟨hfragments, hbodies⟩ := ih hrest hbody.2
    refine ⟨hfragments, ?_⟩
    -- The turn is renamed and trimmed before it is kept, and a check that lasts survives both.
    have htext := fragments_checked hcheck (hbody.1 a inner hrun)
    have hfinished : check (l.finished c.counter (" ".intercalate inner.fragments)) = true :=
      hcheck.trim (hcheck.rename c.counter (fun x hx => of_decide_eq_true (hl.1 x hx)) htext)
    unfold keep
    split_ifs
    · exact hbodies
    · exact List.forall_mem_cons.2 ⟨hfinished, hbodies⟩

theorem join_checked {bodies : List String} (h : ∀ s ∈ bodies, check s = true) : check (l.join bodies) = true := by
  rw [isChecked, Bool.and_eq_true] at hl
  have htexts := List.all_eq_true.1 hl.2
  have hopening := htexts l.opening (by simp)
  have hseparator := htexts l.separator (by simp)
  have hclosing := htexts l.closing (by simp)
  exact hcheck.append (hcheck.append hopening (hcheck.intercalate hseparator h)) hclosing

theorem render_checked {a : Bool} (h : run (l.render body) c = (.ok a, d)) (hc : ∀ s ∈ c.fragments, check s = true)
    (hbody : ∀ t ∈ l.turns body ((l.entriesAt c).getD []) c, ∀ a inner, run body t.start = (.ok a, inner) →
      ∀ s ∈ inner.fragments, check s = true) : ∀ s ∈ d.fragments, check s = true := by
  obtain ⟨entries, hentries, ⟨-, -, rfl⟩ | ⟨-, bodies, after, hiter, -, rfl⟩⟩ := render_ok h
  · exact hc
  · rw [hentries] at hbody
    obtain ⟨hfragments, hbodies⟩ := iterate_checked hcheck hl hiter hbody
    have hleave : ∀ s ∈ (l.leave c after).fragments, check s = true := by
      rw [leave_fragments, hfragments]
      exact hc
    split_ifs
    · exact hleave
    · exact append_checked hleave (join_checked hcheck hl hbodies)

end Loop

namespace Node

/-- What a rendering writes passes the check, if the template does and the values that are put into it. -/
theorem render_checked (n : Node) (hn : n.isChecked check = true) : n.PassesOn check := by
  induction n using tree_induction with
  | text s =>
    intro c d a h hc _
    obtain ⟨-, rfl⟩ := render_text_ok.1 h
    exact append_checked hc hn
  | substituted source segments =>
    intro c d a h hc hvalues
    obtain ⟨-, s, e, hs, rfl⟩ := render_substituted_ok.1 h
    obtain ⟨rfl, hs⟩ := Render.segments_ok.1 hs
    refine append_checked ?_ (segmentsText_checked hcheck hs (List.all_eq_true.1 hn) hvalues)
    rw [bindScalar_fragments]
    exact hc
  | conditional test body ih =>
    intro c d a h hc hvalues
    obtain ⟨htest, h⟩ := render_conditional_ok.1 h
    rw [inserted, htest] at hvalues
    cases a with
    | true =>
      obtain ⟨_, hbody⟩ := h
      exact ih hn _ _ _ hbody hc hvalues
    | false =>
      obtain rfl : d = c := h
      exact hc
  | choose whens otherwise ihw iho =>
    intro c d a h hc hvalues
    rw [isChecked, Bool.and_eq_true] at hn
    have hwhens := fun w hw => ihw w hw (forall_whensChecked hn.1 w hw)
    obtain ⟨-, hfound⟩ | ⟨hnone, hother⟩ := render_choose_ok.1 h
    · exact renderWhens_checked hwhens hfound hc hvalues
    · -- With no test fulfilled, the values are those of the branch that is left.
      have hothers := renderWhens_checked hwhens hnone hc hvalues
      cases otherwise with
      | none =>
        rw [(renderOtherwise_none_ok.1 hother).2]
        exact hc
      | some body =>
        obtain ⟨-, _, hbody⟩ := renderOtherwise_some_ok.1 hother
        exact iho body rfl hn.2 _ _ _ hbody hc hothers
  | clause kind cl body ih =>
    intro c d a h hc hvalues
    rw [isChecked, Bool.and_eq_true] at hn
    obtain ⟨_, e, hbody, -, rfl⟩ := render_clause_ok.1 h
    have htext := fragments_checked hcheck (ih hn.2 _ _ _ hbody (by simp) hvalues)
    exact List.forall_mem_append.2 ⟨hc, fun s hs => wrap?_checked hcheck hn.1 htext s (Option.mem_toList.1 hs)⟩
  | loop l body ih =>
    intro c d a h hc hvalues
    rw [isChecked, Bool.and_eq_true] at hn
    refine Loop.render_checked hcheck hn.1 h hc fun t ht a inner hinner => ih hn.2 _ _ _ hinner ?_ fun v hv => hvalues v ?_
    · rw [Loop.start_fragments t ht]
      simp
    · exact List.mem_flatMap.2 ⟨t, ht, hv⟩
  | bind name value =>
    intro c d a h hc _
    obtain ⟨-, v, -, rfl⟩ := render_bind_ok.1 h
    exact hc
  | sequence nodes ih =>
    intro c d a h hc hvalues
    obtain ⟨-, hall⟩ := render_sequence_ok.1 h
    exact renderAll_checked (fun n hmem => ih n hmem (forall_allChecked hn n hmem)) hall hc hvalues

end Node

end

/-! ## Checking placeholders -/

/-- If a check of contents survives renaming, that of clear texts is lasting. -/
theorem lasting_isClear {half : Char} (hhalf : half = '#' ∨ half = '{') {check : String → Bool}
    (hrename : ∀ names n content, (∀ x ∈ names, IsLoopName x) → check content = true → check (renameContent names n content) = true) :
    Lasting (isClear half check) where
  space := by
    have hblank : isClear half check (.ofList [' ']) = true := by
      refine (isClear_iff hhalf).2 ⟨Glyph.chars [' '], ?_, rfl⟩
      rcases hhalf with rfl | rfl <;> simp [Glyph.chars, Glyph.isClear]
    exact hblank
  append := isClear_append hhalf
  trim h := isClear_trim hhalf (by rwa [String.ofList_toList])
  strip hplain h := isClear_strip hhalf hplain (by rwa [String.ofList_toList])
  rename := by
    intro names n s hnames h
    rw [renamePlaceholders, Glyph.edit_eq, isClear_iff hhalf]
    refine ⟨_, List.forall_mem_map.2 fun g hg => ?_, rfl⟩
    have hclear := List.all_eq_true.1 h g hg
    -- Renaming goes from glyph to glyph and changes tokens only.
    cases g with
    | char c => exact hclear
    | escape => rfl
    | token raw =>
      rw [Glyph.isClear, Bool.and_eq_true] at hclear
      rw [Glyph.mapRaw, Glyph.isClear, Bool.and_eq_true, meant_renameContent hnames]
      exact ⟨encloses_renameContent names n hclear.1, hrename names n _ hnames hclear.2⟩

end SqlTemplate
