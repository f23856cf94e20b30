import SqlTemplate.Engine
import SqlTemplate.Proofs.Mapping.Extraction
import SqlTemplate.Proofs.Rendering.Turn

/-! # The SQL follows from the decisions

Values, keys of maps and results of bindings steer a rendering through its tests and the sizes of its loops. Two renderings
that decide alike write the same SQL, whatever the values are.
-/

namespace SqlTemplate

open SqlTemplate.Computation

/-- How the tests of a rendering came out and how many entries its loops went over, each in the order met. -/
structure Decisions where
  tests : List Bool
  sizes : List Nat
  deriving DecidableEq

namespace Decisions

def none : Decisions := ⟨[], []⟩

def test (b : Bool) : Decisions := ⟨[b], []⟩

def size (n : Nat) : Decisions := ⟨[], [n]⟩

instance : Append Decisions := ⟨fun a b => ⟨a.tests ++ b.tests, a.sizes ++ b.sizes⟩⟩

def concat (ds : List Decisions) : Decisions := ds.foldr (· ++ ·) none

variable {a b c : Decisions}

@[simp]
theorem none_append : none ++ a = a := rfl

@[simp]
theorem append_none : a ++ none = a := by
  change Decisions.mk (a.tests ++ []) (a.sizes ++ []) = a
  rw [List.append_nil, List.append_nil]

theorem append_assoc : a ++ b ++ c = a ++ (b ++ c) := by
  change Decisions.mk (a.tests ++ b.tests ++ c.tests) (a.sizes ++ b.sizes ++ c.sizes) = _
  rw [List.append_assoc, List.append_assoc]
  rfl

theorem test_append_inj {s t : Bool} : test s ++ a = test t ++ b ↔ s = t ∧ a = b := by
  change Decisions.mk (s :: a.tests) a.sizes = Decisions.mk (t :: b.tests) b.sizes ↔ _
  cases a
  cases b
  simp [and_assoc]

theorem size_append_inj {m n : Nat} : size m ++ a = size n ++ b ↔ m = n ∧ a = b := by
  change Decisions.mk a.tests (m :: a.sizes) = Decisions.mk b.tests (n :: b.sizes) ↔ _
  cases a
  cases b
  simp [and_left_comm]

theorem concat_cons {ds : List Decisions} : concat (a :: ds) = a ++ concat ds := rfl

end Decisions

def Segment.isExpr : Segment → Bool
  | .text _ => false
  | .expr _ => true

namespace Node

mutual

/-- Whether an expression is substituted anywhere in the node. -/
def substitutes : Node → Bool
  | .text _ | .bind _ _ => false
  | .substituted _ segments => segments.any Segment.isExpr
  | .conditional _ body | .clause _ _ body | .loop _ body => body.substitutes
  | .choose whens otherwise => whensSubstitute whens || otherwiseSubstitutes otherwise
  | .sequence nodes => anySubstitutes nodes

def anySubstitutes : List Node → Bool
  | [] => false
  | n :: nodes => n.substitutes || anySubstitutes nodes

def whensSubstitute : List (Expr × Node) → Bool
  | [] => false
  | (_, body) :: whens => body.substitutes || whensSubstitute whens

def otherwiseSubstitutes : Option Node → Bool
  | none => false
  | some body => body.substitutes

end

mutual

/-- What a rendering of the node from the context decides. -/
def decisions : Node → Context → Decisions
  | .text _, _ | .substituted _ _, _ | .bind _ _, _ => .none
  | .sequence nodes, c => decisionsAll nodes c
  | .conditional test body, c =>
    match Expr.evalTest c.bindings test with
    | .ok true => .test true ++ body.decisions c
    | .ok false => .test false
    | .error _ => .none
  | .choose whens otherwise, c =>
    decisionsWhens whens c ++
      match run (renderWhens whens) c with
      | (.ok false, d) => decisionsOtherwise otherwise d
      | _ => .none
  | .clause _ _ body, c => body.decisions { c with fragments := [] }
  | .loop l body, c =>
    match l.entriesAt c with
    | some entries =>
      .size entries.length ++ .concat ((l.turns body.render entries c).map fun t => body.decisions t.start)
    | none => .none

def decisionsAll : List Node → Context → Decisions
  | [], _ => .none
  | n :: nodes, c => n.decisions c ++ decisionsAll nodes (run n.render c).2

def decisionsWhens : List (Expr × Node) → Context → Decisions
  | [], _ => .none
  | (test, body) :: whens, c =>
    match Expr.evalTest c.bindings test with
    | .ok true => .test true ++ body.decisions c
    | .ok false => .test false ++ decisionsWhens whens c
    | .error _ => .none

def decisionsOtherwise : Option Node → Context → Decisions
  | none, _ => .none
  | some body, c => body.decisions c

end

end Node

/-! ## Two renderings side by side -/

/-- The second context of each pair follows from the first by writing one and the same text. -/
structure Alike (c₁ c₂ d₁ d₂ : Context) : Prop where
  written : ∃ added, d₁.fragments = c₁.fragments ++ added ∧ d₂.fragments = c₂.fragments ++ added
  counter : d₁.counter = d₂.counter

theorem Alike.refl {c₁ c₂ : Context} (h : c₁.counter = c₂.counter) : Alike c₁ c₂ c₁ c₂ :=
  ⟨⟨[], by simp, by simp⟩, h⟩

theorem Alike.trans {c₁ c₂ d₁ d₂ e₁ e₂ : Context} (h : Alike c₁ c₂ d₁ d₂) (h' : Alike d₁ d₂ e₁ e₂) :
    Alike c₁ c₂ e₁ e₂ := by
  obtain ⟨added, h₁, h₂⟩ := h.written
  obtain ⟨more, h₁', h₂'⟩ := h'.written
  exact ⟨⟨added ++ more, by rw [h₁', h₁, List.append_assoc], by rw [h₂', h₂, List.append_assoc]⟩, h'.counter⟩

theorem Alike.append {c₁ c₂ : Context} (h : c₁.counter = c₂.counter) (s : String) :
    Alike c₁ c₂ (c₁.append s) (c₂.append s) :=
  ⟨⟨[s], rfl, rfl⟩, h⟩

theorem Alike.text {c₁ c₂ d₁ d₂ : Context} (h : Alike { c₁ with fragments := [] } { c₂ with fragments := [] } d₁ d₂) :
    " ".intercalate d₁.fragments = " ".intercalate d₂.fragments := by
  obtain ⟨added, h₁, h₂⟩ := h.written
  rw [h₁, h₂]

/-- Runs that decide alike give the same result and write the same. The decisions may be followed by others, which are then
the same too. -/
def Steered {α : Type} (x : Render α) (ds : Context → Decisions) : Prop :=
  ∀ ⦃c₁ c₂ d₁ d₂ : Context⦄ ⦃a₁ a₂ : α⦄ ⦃r₁ r₂ : Decisions⦄, run x c₁ = (.ok a₁, d₁) → run x c₂ = (.ok a₂, d₂) →
    c₁.counter = c₂.counter → ds c₁ ++ r₁ = ds c₂ ++ r₂ → a₁ = a₂ ∧ Alike c₁ c₂ d₁ d₂ ∧ r₁ = r₂

theorem segmentsText_congr {parts : List Segment} (h : parts.any Segment.isExpr = false) (b₁ b₂ : Bindings) :
    segmentsText b₁ parts = segmentsText b₂ parts := by
  induction parts with
  | nil => rfl
  | cons part parts ih =>
    rw [List.any_cons, Bool.or_eq_false_iff] at h
    cases part with
    | text s => rw [segmentsText, segmentsText, ih h.2]
    | expr e => simp [Segment.isExpr] at h

namespace Loop

variable {l : Loop} {body : Render Bool} {ds : Context → Decisions}

theorem iterate_steered (hbody : Steered body ds) {entries₁ entries₂ : List (Value × Value)}
    (hlen : entries₁.length = entries₂.length) {c₁ c₂ d₁ d₂ : Context} {bodies₁ bodies₂ : List String} {r₁ r₂ : Decisions}
    (h₁ : run (l.iterate body entries₁) c₁ = (.ok bodies₁, d₁)) (h₂ : run (l.iterate body entries₂) c₂ = (.ok bodies₂, d₂))
    (hc : c₁.counter = c₂.counter)
    (hd : .concat ((l.turns body entries₁ c₁).map fun t => ds t.start) ++ r₁ =
      .concat ((l.turns body entries₂ c₂).map fun t => ds t.start) ++ r₂) :
    bodies₁ = bodies₂ ∧ d₁.fragments = c₁.fragments ∧ d₂.fragments = c₂.fragments ∧ d₁.counter = d₂.counter ∧
      r₁ = r₂ := by
  induction entries₁ generalizing entries₂ c₁ c₂ bodies₁ bodies₂ with
  | nil =>
    obtain rfl : entries₂ = [] := List.eq_nil_of_length_eq_zero hlen.symm
    obtain ⟨rfl, rfl⟩ := iterate_nil_ok.1 h₁
    obtain ⟨rfl, rfl⟩ := iterate_nil_ok.1 h₂
    exact ⟨rfl, rfl, rfl, hc, hd⟩
  | cons entry₁ entries₁ ih =>
    obtain ⟨key₁, value₁⟩ := entry₁
    obtain ⟨⟨key₂, value₂⟩, entries₂, rfl⟩ := List.exists_cons_of_length_pos (l := entries₂) (by simp [← hlen])
    obtain ⟨_, inner₁, rest₁, hbody₁, h₁, hb₁⟩ := iterate_cons_ok.1 h₁
    obtain ⟨_, inner₂, rest₂, hbody₂, h₂, hb₂⟩ := iterate_cons_ok.1 h₂
    rw [turns_cons_ok hbody₁, turns_cons_ok hbody₂, List.map_cons, List.map_cons, Decisions.concat_cons,
      Decisions.concat_cons, Decisions.append_assoc, Decisions.append_assoc] at hd
    -- A turn takes its own decisions off the front of both lists, and what is left is for the turns after it.
    obtain ⟨-, halike, hd⟩ := hbody hbody₁ hbody₂ (by simp [hc]) hd
    obtain ⟨hrest, hf₁, hf₂, hcount, hr⟩ := ih (by simpa using hlen) h₁ h₂ halike.counter hd
    exact ⟨by rw [hb₁, hb₂, halike.text, hrest, hc], hf₁, hf₂, hcount, hr⟩

theorem render_steered (hbody : Steered body ds) :
    Steered (l.render body) fun c =>
      match l.entriesAt c with
      | some entries => .size entries.length ++ .concat ((l.turns body entries c).map fun t => ds t.start)
      | none => .none := by
  intro c₁ c₂ d₁ d₂ a₁ a₂ r₁ r₂ h₁ h₂ hc hd
  obtain ⟨entries₁, he₁, h₁⟩ := render_ok h₁
  obtain ⟨entries₂, he₂, h₂⟩ := render_ok h₂
  simp only [he₁, he₂, Decisions.append_assoc] at hd
  -- The first decision is the size, so that both loops go over as many entries, and either both or neither takes a turn.
  obtain ⟨hlen, hd⟩ := Decisions.size_append_inj.1 hd
  rcases h₁ with ⟨rfl, rfl, rfl⟩ | ⟨hne₁, bodies₁, after₁, hiter₁, ha₁, hd₁⟩
  · rcases h₂ with ⟨rfl, rfl, rfl⟩ | ⟨hne₂, -⟩
    · exact ⟨rfl, .refl hc, hd⟩
    · exact absurd (List.eq_nil_of_length_eq_zero hlen.symm) hne₂
  · rcases h₂ with ⟨rfl, -⟩ | ⟨-, bodies₂, after₂, hiter₂, ha₂, hd₂⟩
    · exact absurd (List.eq_nil_of_length_eq_zero hlen) hne₁
    · obtain ⟨rfl, hf₁, hf₂, hcount, hr⟩ := iterate_steered hbody hlen hiter₁ hiter₂ hc hd
      refine ⟨ha₁.trans ha₂.symm, ?_, hr⟩
      rw [hd₁, hd₂]
      cases bodies₁.isEmpty
      · exact ⟨⟨[l.join bodies₁], by simp [Context.append, hf₁], by simp [Context.append, hf₂]⟩, by simp [Context.append, hcount]⟩
      · exact ⟨⟨[], by simp [hf₁], by simp [hf₂]⟩, by simp [hcount]⟩

end Loop

namespace Node

theorem renderAll_steered {nodes : List Node} (h : ∀ n ∈ nodes, Steered n.render n.decisions) :
    Steered (renderAll nodes) (decisionsAll nodes) := by
  induction nodes with
  | nil =>
    intro c₁ c₂ d₁ d₂ a₁ a₂ r₁ r₂ h₁ h₂ hc hd
    obtain rfl := renderAll_nil_ok.1 h₁
    obtain rfl := renderAll_nil_ok.1 h₂
    exact ⟨rfl, .refl hc, hd⟩
  | cons n nodes ih =>
    rw [List.forall_mem_cons] at h
    intro c₁ c₂ d₁ d₂ a₁ a₂ r₁ r₂ h₁ h₂ hc hd
    obtain ⟨_, e₁, hn₁, h₁⟩ := renderAll_cons_ok.1 h₁
    obtain ⟨_, e₂, hn₂, h₂⟩ := renderAll_cons_ok.1 h₂
    rw [decisionsAll, decisionsAll, hn₁, hn₂, Decisions.append_assoc, Decisions.append_assoc] at hd
    obtain ⟨-, halike, hd⟩ := h.1 hn₁ hn₂ hc hd
    obtain ⟨-, hrest, hr⟩ := ih h.2 h₁ h₂ halike.counter hd
    exact ⟨rfl, halike.trans hrest, hr⟩

theorem renderWhens_steered {whens : List (Expr × Node)} (h : ∀ w ∈ whens, Steered w.2.render w.2.decisions) :
    Steered (renderWhens whens) (decisionsWhens whens) := by
  induction whens with
  | nil =>
    intro c₁ c₂ d₁ d₂ a₁ a₂ r₁ r₂ h₁ h₂ hc hd
    obtain ⟨rfl, rfl⟩ := renderWhens_nil_ok.1 h₁
    obtain ⟨rfl, rfl⟩ := renderWhens_nil_ok.1 h₂
    exact ⟨rfl, .refl hc, hd⟩
  | cons w whens ih =>
    obtain ⟨test, body⟩ := w
    rw [List.forall_mem_cons] at h
    intro c₁ c₂ d₁ d₂ a₁ a₂ r₁ r₂ h₁ h₂ hc hd
    obtain ⟨t₁, ht₁, h₁⟩ := renderWhens_cons_ok.1 h₁
    obtain ⟨t₂, ht₂, h₂⟩ := renderWhens_cons_ok.1 h₂
    -- Either way the test comes first, and what follows it decides the rest.
    have hcase (t : Bool) (rest : Decisions) {c : Context} (ht : Expr.evalTest c.bindings test = .ok t) :
        decisionsWhens ((test, body) :: whens) c ++ rest =
          .test t ++ ((if t then body.decisions c else decisionsWhens whens c) ++ rest) := by
      rw [decisionsWhens, ht]
      cases t <;> exact Decisions.append_assoc
    rw [hcase t₁ _ ht₁, hcase t₂ _ ht₂] at hd
    obtain ⟨rfl, hd⟩ := Decisions.test_append_inj.1 hd
    cases t₁
    · exact ih h.2 h₁ h₂ hc hd
    · obtain ⟨rfl, _, h₁⟩ := h₁
      obtain ⟨rfl, _, h₂⟩ := h₂
      exact ⟨rfl, (h.1 h₁ h₂ hc hd).2⟩

theorem renderOtherwise_steered {otherwise : Option Node}
    (h : ∀ body ∈ otherwise, Steered body.render body.decisions) :
    Steered (renderOtherwise otherwise) (decisionsOtherwise otherwise) := by
  intro c₁ c₂ d₁ d₂ a₁ a₂ r₁ r₂ h₁ h₂ hc hd
  cases otherwise with
  | none =>
    obtain ⟨rfl, rfl⟩ := renderOtherwise_none_ok.1 h₁
    obtain ⟨rfl, rfl⟩ := renderOtherwise_none_ok.1 h₂
    exact ⟨rfl, .refl hc, hd⟩
  | some body =>
    obtain ⟨rfl, _, h₁⟩ := renderOtherwise_some_ok.1 h₁
    obtain ⟨rfl, _, h₂⟩ := renderOtherwise_some_ok.1 h₂
    exact ⟨rfl, (h body rfl h₁ h₂ hc hd).2⟩

theorem decisions_conditional {test : Expr} {body : Node} {c : Context} {t : Bool}
    (h : Expr.evalTest c.bindings test = .ok t) :
    (Node.conditional test body).decisions c = .test t ++ if t then body.decisions c else .none := by
  rw [decisions, h]
  cases t <;> simp

theorem mem_substitutes_sequence {nodes : List Node} (h : anySubstitutes nodes = false) :
    ∀ n ∈ nodes, n.substitutes = false := by
  induction nodes with
  | nil => simp
  | cons n nodes ih =>
    rw [anySubstitutes, Bool.or_eq_false_iff] at h
    exact List.forall_mem_cons.2 ⟨h.1, ih h.2⟩

theorem mem_substitutes_whens {whens : List (Expr × Node)} (h : whensSubstitute whens = false) :
    ∀ w ∈ whens, w.2.substitutes = false := by
  induction whens with
  | nil => simp
  | cons w whens ih =>
    rw [whensSubstitute, Bool.or_eq_false_iff] at h
    exact List.forall_mem_cons.2 ⟨h.1, ih h.2⟩

/-- Without substitutions a rendering is steered by its decisions alone. -/
theorem render_steered (n : Node) (h : n.substitutes = false) : Steered n.render n.decisions := by
  induction n using tree_induction with
  | text s =>
    intro c₁ c₂ d₁ d₂ a₁ a₂ r₁ r₂ h₁ h₂ hc hd
    obtain ⟨rfl, rfl⟩ := render_text_ok.1 h₁
    obtain ⟨rfl, rfl⟩ := render_text_ok.1 h₂
    exact ⟨rfl, .append hc s, hd⟩
  | substituted source segments =>
    intro c₁ c₂ d₁ d₂ a₁ a₂ r₁ r₂ h₁ h₂ hc hd
    obtain ⟨rfl, s₁, e₁, hs₁, rfl⟩ := render_substituted_ok.1 h₁
    obtain ⟨rfl, s₂, e₂, hs₂, rfl⟩ := render_substituted_ok.1 h₂
    obtain ⟨rfl, hs₁⟩ := Render.segments_ok.1 hs₁
    obtain ⟨rfl, hs₂⟩ := Render.segments_ok.1 hs₂
    -- No expression is among the segments, so that the text is the same under both bindings.
    rw [segmentsText_congr h _ (run Render.bindScalar c₂).2.bindings, hs₂, Except.ok.injEq] at hs₁
    subst hs₁
    refine ⟨rfl, ⟨⟨[s₂], ?_, ?_⟩, ?_⟩, hd⟩
    · simp [Context.append, bindScalar_fragments]
    · simp [Context.append, bindScalar_fragments]
    · simp [Context.append, bindScalar_counter, hc]
  | conditional test body ih =>
    rw [substitutes] at h
    intro c₁ c₂ d₁ d₂ a₁ a₂ r₁ r₂ h₁ h₂ hc hd
    obtain ⟨ht₁, h₁⟩ := render_conditional_ok.1 h₁
    obtain ⟨ht₂, h₂⟩ := render_conditional_ok.1 h₂
    rw [decisions_conditional ht₁, decisions_conditional ht₂, Decisions.append_assoc, Decisions.append_assoc] at hd
    obtain ⟨rfl, hd⟩ := Decisions.test_append_inj.1 hd
    cases a₁
    · obtain rfl := h₁
      obtain rfl := h₂
      exact ⟨rfl, .refl hc, hd⟩
    · obtain ⟨_, h₁⟩ := h₁
      obtain ⟨_, h₂⟩ := h₂
      exact ⟨rfl, (ih h h₁ h₂ hc hd).2⟩
  | choose whens otherwise ihw iho =>
    rw [substitutes, Bool.or_eq_false_iff] at h
    have hw := renderWhens_steered fun w hw => ihw w hw (mem_substitutes_whens h.1 w hw)
    have ho : Steered (renderOtherwise otherwise) (decisionsOtherwise otherwise) :=
      renderOtherwise_steered fun body hb => iho body hb (by simpa [Option.mem_def.1 hb, otherwiseSubstitutes] using h.2)
    intro c₁ c₂ d₁ d₂ a₁ a₂ r₁ r₂ h₁ h₂ hc hd
    rw [decisions, decisions, Decisions.append_assoc, Decisions.append_assoc] at hd
    -- Both find a branch or neither does, which leaves two of the four cases.
    rcases render_choose_ok.1 h₁ with ⟨rfl, hw₁⟩ | ⟨hw₁, ho₁⟩ <;>
      rcases render_choose_ok.1 h₂ with ⟨rfl, hw₂⟩ | ⟨hw₂, ho₂⟩
    all_goals
      obtain ⟨hfound, halike, hd⟩ := hw hw₁ hw₂ hc hd
      simp only [hw₁, hw₂] at hd
    · exact ⟨rfl, halike, hd⟩
    · simp at hfound
    · simp at hfound
    · exact ho ho₁ ho₂ hc hd
  | clause kind cl body ih =>
    rw [substitutes] at h
    intro c₁ c₂ d₁ d₂ a₁ a₂ r₁ r₂ h₁ h₂ hc hd
    obtain ⟨_, e₁, hbody₁, rfl, rfl⟩ := render_clause_ok.1 h₁
    obtain ⟨_, e₂, hbody₂, rfl, rfl⟩ := render_clause_ok.1 h₂
    obtain ⟨-, halike, hr⟩ := ih h hbody₁ hbody₂ hc hd
    rw [halike.text]
    exact ⟨rfl, ⟨⟨_, rfl, rfl⟩, halike.counter⟩, hr⟩
  | loop l body ih =>
    rw [substitutes] at h
    exact Loop.render_steered (ih h)
  | bind name value =>
    intro c₁ c₂ d₁ d₂ a₁ a₂ r₁ r₂ h₁ h₂ hc hd
    obtain ⟨rfl, v₁, -, rfl⟩ := render_bind_ok.1 h₁
    obtain ⟨rfl, v₂, -, rfl⟩ := render_bind_ok.1 h₂
    exact ⟨rfl, ⟨⟨[], by simp [Context.bind], by simp [Context.bind]⟩, hc⟩, hd⟩
  | sequence nodes ih =>
    rw [substitutes] at h
    intro c₁ c₂ d₁ d₂ a₁ a₂ r₁ r₂ h₁ h₂ hc hd
    obtain ⟨rfl, hall₁⟩ := render_sequence_ok.1 h₁
    obtain ⟨rfl, hall₂⟩ := render_sequence_ok.1 h₂
    exact ⟨rfl, (renderAll_steered (fun n hn => ih n hn (mem_substitutes_sequence h n hn)) hall₁ hall₂ hc hd).2⟩

end Node

/-! ## Nothing bound leaks into the text -/

/-- Two renderings of a template without substitutions that decide alike give the same SQL, and extraction leaves the same
markers and properties in it. -/
theorem sql_of_decisions (root : Node) (hroot : root.substitutes = false) {c₁ c₂ d₁ d₂ : Context} {b₁ b₂ : Bool}
    (hcounter : c₁.counter = c₂.counter) (hempty₁ : c₁.fragments = []) (hempty₂ : c₂.fragments = [])
    (h₁ : run root.render c₁ = (.ok b₁, d₁)) (h₂ : run root.render c₂ = (.ok b₂, d₂))
    (hdecisions : root.decisions c₁ = root.decisions c₂) :
    d₁.sql = d₂.sql ∧
      ∀ (e : Engine) (t₁ t₂ : ValueType) (r₁ r₂ s₁ s₂ : Registry) (m₁ m₂ : MarkedSql),
        run (e.extract (e.finish d₁.sql) t₁ d₁.bindings) r₁ = (.ok m₁, s₁) →
        run (e.extract (e.finish d₂.sql) t₂ d₂.bindings) r₂ = (.ok m₂, s₂) →
        m₁.sql = m₂.sql ∧ m₁.mappings.map (·.property) = m₂.mappings.map (·.property) := by
  obtain ⟨-, halike, -⟩ := root.render_steered hroot h₁ h₂ hcounter (congrArg (· ++ Decisions.none) hdecisions)
  have hsql : d₁.sql = d₂.sql := by
    obtain ⟨added, hf₁, hf₂⟩ := halike.written
    rw [Context.sql, Context.sql, hf₁, hf₂, hempty₁, hempty₂]
  refine ⟨hsql, fun e t₁ t₂ r₁ r₂ s₁ s₂ m₁ m₂ hm₁ hm₂ => ?_⟩
  rw [hsql] at hm₁
  obtain ⟨hs₁, hreads₁⟩ := Scope.extract_ok hm₁
  obtain ⟨hs₂, hreads₂⟩ := Scope.extract_ok hm₂
  exact ⟨hs₁.trans hs₂.symm, Scope.properties_same (Scope.reads_same hreads₁ hreads₂)⟩

/-- A test that holds and a loop over two rows, of numbers in one rendering and of a text and null in the other. -/
theorem sql_of_decisions_two_rows :
    let rows : Loop := ⟨.ident "ids", some "x", none, some "(", some ")", some ","⟩
    let root : Node := .sequence [.text "a = #{a}", .conditional (.ident "on") (.loop rows (.text "#{x}"))]
    let c₁ := Context.initial (.map [("ids", .list [.int 1, .int 2]), ("on", .bool true)]) none
    let c₂ := Context.initial (.map [("ids", .list [.string "'; --", .null]), ("on", .int 5)]) (some "pg")
    root.decisions c₁ = root.decisions c₂ ∧ (run root.render c₁).2.sql = (run root.render c₂).2.sql := by
  intro rows root c₁ c₂
  have hdecisions : root.decisions c₁ = root.decisions c₂ := by decide +kernel
  have h₁ : run root.render c₁ = (.ok true, (run root.render c₁).2) := run_of_toOption (by decide +kernel)
  have h₂ : run root.render c₂ = (.ok true, (run root.render c₂).2) := run_of_toOption (by decide +kernel)
  have hcounter : c₁.counter = c₂.counter := rfl
  have hempty₁ : c₁.fragments = [] := rfl
  have hempty₂ : c₂.fragments = [] := rfl
  exact ⟨hdecisions, (sql_of_decisions root rfl hcounter hempty₁ hempty₂ h₁ h₂ hdecisions).1⟩

end SqlTemplate
