import SqlTemplate.Proofs.Rendering.Success
import SqlTemplate.Proofs.Template.Overrides

/-! # Clauses of conditions

Whichever of its conditions hold, a `WHERE` begins with the first of them, without its connective, and a `SET` ends with the last,
without its comma. Where none of them holds there is no clause.
-/

namespace SqlTemplate

open SqlTemplate.Computation Text

/-- A node that is a text and nothing else. -/
inductive Node.IsText (s : String) : Node → Prop
  | text : IsText s (.text s)
  | sequence {n : Node} (h : IsText s n) : IsText s (.sequence [n])

/-- A text that is written if a test holds. What the body has around the text depends on the clause. -/
structure Condition where
  test : Expr
  body : Node
  text : String
  nonempty : text.toList ≠ []
  head : ∀ d ∈ text.toList.head?, isBlank d = false
  last : ∀ d ∈ text.toList.getLast?, isBlank d = false

/-- The word between two conditions, and the gap after it. -/
structure Connective where
  word : List Char
  gap : Char
  isWord : sameText "AND".toList word = true ∨ sameText "OR".toList word = true
  isGap : Text.isGap gap = true

namespace Connective

def text (k : Connective) : String := .ofList (k.word ++ [k.gap])

theorem spelled (k : Connective) :
    ∃ word ∈ ["AND", "OR"], sameText word.toList k.word = true ∧ ∀ d ∈ word.toList, isBlank d = false := by
  rcases k.isWord with h | h
  · exact ⟨"AND", by simp, h, by simp [isBlank]⟩
  · exact ⟨"OR", by simp, h, by simp [isBlank]⟩

theorem head?_append (k : Connective) (rest : List Char) : ∀ d ∈ (k.word ++ rest).head?, isBlank d = false := by
  obtain ⟨word, hmem, hsame, hletters⟩ := k.spelled
  have hne : k.word ≠ [] := Clause.ne_nil_of_sameText hsame (by rcases List.mem_pair.1 hmem with rfl | rfl <;> decide)
  intro d hd
  rw [List.head?_append_of_ne_nil _ hne] at hd
  exact isBlank_sameText hsame hletters d (List.mem_of_mem_head? hd)

end Connective

namespace Condition

def node (x : Condition) : Node := .conditional x.test x.body

def holds (b : Bindings) (x : Condition) : Bool :=
  match Expr.evalTest b x.test with
  | .ok t => t
  | .error _ => false

/-- The clause of the conditions that hold, each with the connective before it. -/
def where? : List (Connective × Condition) → Option String
  | [] => none
  | (_, x) :: rest => some ("WHERE " ++ " ".intercalate (x.text :: rest.map fun (k, x) => k.text ++ x.text))

/-- The clause of the assignments whose conditions hold. -/
def set? : List Condition → Option String
  | [] => none
  | x :: rest => some ("SET " ++ ", ".intercalate ((x :: rest).map text))

end Condition

/-! ## What the conditions write -/

namespace Node

theorem IsText.render {s : String} {n : Node} (h : IsText s n) (c : Context) : run n.render c = (.ok true, c.append s) := by
  induction h with
  | text => exact render_text_ok.2 ⟨rfl, rfl⟩
  | sequence _ ih => exact render_sequence_ok.2 ⟨rfl, renderAll_cons_ok.2 ⟨true, _, ih, renderAll_nil_ok.2 rfl⟩⟩

/-- Each condition sees the bindings that the first one saw. -/
theorem renderAll_conditions {α : Type} (condition : α → Condition) (written : α → String) {items : List α} {c : Context}
    (h : ∀ x ∈ items, (∃ t, Expr.evalTest c.bindings (condition x).test = .ok t) ∧ (condition x).body.IsText (written x)) :
    run (renderAll (items.map fun x => (condition x).node)) c =
      (.ok ⟨⟩, { c with fragments := c.fragments ++ (items.filter fun x => (condition x).holds c.bindings).map written }) := by
  induction items generalizing c with
  | nil => simp
  | cons x items ih =>
    rw [List.forall_mem_cons] at h
    obtain ⟨⟨⟨t, htest⟩, hbody⟩, hitems⟩ := h
    have hholds : (condition x).holds c.bindings = t := by rw [Condition.holds, htest]
    rw [List.map_cons, renderAll_cons_ok]
    cases t with
    | false =>
      refine ⟨false, c, render_conditional_ok.2 ⟨htest, rfl⟩, ?_⟩
      rw [ih hitems, List.filter_cons_of_neg (by simp [hholds])]
    | true =>
      refine ⟨true, c.append (written x), render_conditional_ok.2 ⟨htest, true, hbody.render c⟩, ?_⟩
      have hrest := ih (c := c.append (written x)) hitems
      rw [hrest]
      simp [Context.append, hholds]

end Node

/-! ## The clauses around them -/

theorem getLast?_intercalate {separator : String} {texts : List String} (hne : texts ≠ [])
    (h : ∀ s ∈ texts, s.toList ≠ [] ∧ ∀ d ∈ s.toList.getLast?, isBlank d = false) :
    ∀ d ∈ (separator.intercalate texts).toList.getLast?, isBlank d = false := by
  induction texts with
  | nil => exact absurd rfl hne
  | cons s texts ih =>
    rw [List.forall_mem_cons] at h
    cases texts with
    | nil =>
      rw [String.intercalate_singleton]
      exact h.1.2
    | cons t texts =>
      have hrest : (separator.intercalate (t :: texts)).toList ≠ [] := by
        cases texts <;> simp [String.intercalate_cons_cons, h.2 t List.mem_cons_self]
      rw [String.intercalate_cons_cons, String.toList_append, List.getLast?_append_of_ne_nil _ hrest]
      exact ih (by simp) h.2

theorem head?_intercalate {separator s : String} {texts : List String} (hs : s.toList ≠ []) :
    (separator.intercalate (s :: texts)).toList.head? = s.toList.head? := by
  cases texts with
  | nil => rw [String.intercalate_singleton]
  | cons t texts =>
    rw [String.intercalate_cons_cons, String.toList_append, String.toList_append, List.append_assoc, List.head?_append_of_ne_nil _ hs]

namespace Clause

/-- The words and gaps of the connectives, each with each. -/
theorem mem_where {override : String} :
    override ∈ Clause.where.leadOverrides ↔ ∃ word ∈ ["AND", "OR"], ∃ gap, isGap gap = true ∧ override = word.push gap := by
  have hlist : Clause.where.leadOverrides = [' ', '\n', '\r', '\t'].flatMap fun gap => ["AND".push gap, "OR".push gap] := rfl
  have hgaps (gap : Char) : gap ∈ [' ', '\n', '\r', '\t'] ↔ isGap gap = true := by
    simp [isGap]
    tauto
  rw [hlist, List.mem_flatMap]
  constructor
  · rintro ⟨gap, hgap, h⟩
    rcases List.mem_pair.1 h with rfl | rfl
    · exact ⟨"AND", by simp, gap, (hgaps gap).1 hgap, rfl⟩
    · exact ⟨"OR", by simp, gap, (hgaps gap).1 hgap, rfl⟩
  · rintro ⟨word, hword, gap, hgap, rfl⟩
    refine ⟨gap, (hgaps gap).2 hgap, ?_⟩
    rcases List.mem_pair.1 hword with rfl | rfl <;> simp

/-- A text that begins with a word and a gap has its first blank after as many characters as the word has. -/
theorem length_takeWhile_of_leads {body : List Char} {word : String} {gap : Char} (hword : ∀ d ∈ word.toList, isBlank d = false)
    (hgap : isBlank gap = true) (h : Leads body (word.push gap)) : (body.takeWhile (!isBlank ·)).length = word.toList.length := by
  obtain ⟨head, tail, rfl, hsame⟩ := h
  rw [String.toList_push] at hsame
  obtain ⟨letters, last, rfl, hletters, hlast⟩ := sameText_append_left.1 hsame
  obtain _ | ⟨hd, ⟨⟩⟩ := sameText_iff.1 hlast
  have hplain := isBlank_sameText hletters hword
  rw [isBlank_of_sameLetter hd] at hgap
  rw [List.append_assoc, List.takeWhile_append_of_pos (by simpa using hplain), List.singleton_append,
    List.takeWhile_cons_of_neg (by simpa using hgap), List.append_nil, length_sameText hletters]

/-- The connective is taken off the front, but not the gap after it, and nothing of a condition that begins like one. -/
theorem dropLead_where (k : Connective) (rest : List Char) : Clause.where.dropLead (k.word ++ k.gap :: rest) = k.gap :: rest := by
  obtain ⟨word, hmem, hword, hletters⟩ := k.spelled
  have hleads : Leads (k.word ++ k.gap :: rest) (word.push k.gap) := by
    refine ⟨k.word ++ [k.gap], rest, by simp, ?_⟩
    rw [String.toList_push]
    exact sameText_append_left.2 ⟨k.word, [k.gap], rfl, hword, by simp [sameText, sameLetter]⟩
  have hlength := length_takeWhile_of_leads hletters (isBlank_of_isGap _ k.isGap) hleads
  obtain ⟨p, hbody, ⟨-, hnone⟩ | ⟨-, before, override, after, horder, -, hfound, hp⟩⟩ :=
    Clause.where.dropLead_parts Written.where.ne_nil (k.head?_append _)
  · exact absurd hleads (hnone _ (mem_where.2 ⟨word, hmem, k.gap, k.isGap, rfl⟩))
  · -- Whichever override was found, its word is as long as the connective's, since a blank comes after both.
    obtain ⟨word', hmem', gap', hgap', rfl⟩ := mem_where.1 (show override ∈ Clause.where.leadOverrides by simp [horder])
    have hletters' : ∀ d ∈ word'.toList, isBlank d = false := by rcases List.mem_pair.1 hmem' with rfl | rfl <;> simp [isBlank]
    have hlength' := length_takeWhile_of_leads hletters' (isBlank_of_isGap _ hgap') hfound
    have htrim : trim (word'.push gap').toList = word'.toList := by
      rw [String.toList_push]
      exact trim_around (a := []) (by simp) (by simpa using isBlank_of_isGap _ hgap')
        (fun d hd => hletters' d (List.mem_of_mem_head? hd)) fun d hd => hletters' d (List.mem_of_getLast? hd)
    rw [htrim] at hp
    have hlen := (length_sameText hword).symm.trans (hlength.symm.trans (hlength'.trans (length_sameText hp)))
    exact (List.append_inj hbody hlen).2.symm

theorem wrap?_where (k : Connective) {text : String} (hne : text.toList ≠ []) (hhead : ∀ d ∈ text.toList.head?, isBlank d = false)
    (hlast : ∀ d ∈ text.toList.getLast?, isBlank d = false) : Clause.where.wrap? (k.text ++ text) = some ("WHERE " ++ text) := by
  have htext : (k.text ++ text).toList = k.word ++ k.gap :: text.toList := by simp [Connective.text]
  have htrim : trim (k.word ++ k.gap :: text.toList) = k.word ++ k.gap :: text.toList := by
    refine trim_self (k.head?_append _) ?_
    rwa [List.append_cons, List.getLast?_append_of_ne_nil _ hne]
  have hgap : trim (k.gap :: text.toList) = text.toList := by
    simpa using trim_around (a := [k.gap]) (b := []) (by simpa using isBlank_of_isGap _ k.isGap) (by simp) hhead hlast
  have hstrip : Clause.where.strip (k.text ++ text).toList = text.toList := by
    rw [strip, htext, htrim, dropLead_where]
    exact hgap
  rw [wrap?, hstrip, if_neg (by simpa using hne), String.ofList_toList]
  simp [before, after, Clause.where]

theorem wrap?_set {text : String} (hne : text.toList ≠ []) (hhead : ∀ d ∈ text.toList.head?, isBlank d = false)
    (hcomma : text.toList.head? ≠ some ',') (hlast : ∀ d ∈ text.toList.getLast?, isBlank d = false) :
    Clause.set.wrap? (text ++ ",") = some ("SET " ++ text) := by
  -- The one override of the clause is the comma.
  have hcommas {before after : List String} {override : String} (h : [","] = before ++ override :: after) : override = "," := by
    obtain ⟨-, heq⟩ | ⟨-, heq⟩ := List.singleton_eq_append_iff.1 h
    · exact (List.cons.inj heq).1
    · cases heq
  have halone {cs : List Char} (h : sameText [','] cs = true) : cs = [','] := by
    obtain _ | ⟨hd, ⟨⟩⟩ := sameText_iff.1 h
    rw [eq_of_sameLetter hd (by decide)]
  have hhead' : ∀ d ∈ (text.toList ++ [',']).head?, isBlank d = false := by
    rwa [List.head?_append_of_ne_nil _ hne]
  have hlast' : ∀ d ∈ (text.toList ++ [',']).getLast?, isBlank d = false := by
    rw [List.getLast?_concat]
    rintro d ⟨⟩
    decide
  have hlead : Clause.set.dropLead (text.toList ++ [',']) = text.toList ++ [','] := by
    obtain ⟨p, hbody, ⟨rfl, -⟩ | ⟨-, before, override, after, horder, -, ⟨head, tail, hbegins, hsame⟩, -⟩⟩ :=
      Clause.set.dropLead_parts Written.set.ne_nil hhead'
    · exact hbody.symm
    · obtain rfl := hcommas horder
      have hfirst := congrArg List.head? hbegins
      rw [halone hsame, List.head?_append_of_ne_nil _ hne] at hfirst
      exact absurd hfirst hcomma
  have htail : Clause.set.dropTail (text.toList ++ [',']) = text.toList := by
    obtain ⟨s, hbody, ⟨-, hnone⟩ | ⟨-, before, override, after, horder, -, -, hsame⟩⟩ := Clause.set.dropTail_parts hlast'
    · exact absurd ⟨by decide, .inl ⟨text.toList, [','], rfl, by decide⟩⟩ (hnone "," (by simp [Clause.set]))
    · obtain rfl := hcommas horder
      rw [halone hsame] at hbody
      exact (List.append_cancel_right hbody).symm
  have hstrip : Clause.set.strip (text ++ ",").toList = text.toList := by
    rw [strip, String.toList_append, show ",".toList = [','] from rfl, trim_self hhead' hlast', hlead, htail]
    exact trim_self hhead hlast
  rw [wrap?, hstrip, if_neg (by simpa using hne), String.ofList_toList]
  simp [before, after, Clause.set]

end Clause

namespace Condition

theorem intercalate_ne_nil (x : Condition) (separator : String) (texts : List String) :
    (separator.intercalate (x.text :: texts)).toList ≠ [] := by
  rw [ne_eq, ← List.head?_eq_none_iff, head?_intercalate x.nonempty, List.head?_eq_none_iff]
  exact x.nonempty

theorem wrap?_where (conditions : List (Connective × Condition)) :
    Clause.where.wrap? (" ".intercalate (conditions.map fun (k, x) => k.text ++ x.text)) = where? conditions := by
  cases conditions with
  | nil => decide +kernel
  | cons first rest =>
    obtain ⟨k, x⟩ := first
    have hjoin (texts : List String) : " ".intercalate ((k.text ++ x.text) :: texts) = k.text ++ " ".intercalate (x.text :: texts) := by
      cases texts <;> simp [String.intercalate_cons_cons, String.append_assoc]
    rw [List.map_cons, hjoin, Clause.wrap?_where k (x.intercalate_ne_nil _ _)]
    · rfl
    · rw [head?_intercalate x.nonempty]
      exact x.head
    · refine getLast?_intercalate (by simp) (List.forall_mem_cons.2 ⟨⟨x.nonempty, x.last⟩, fun s hs => ?_⟩)
      obtain ⟨⟨k', y⟩, -, rfl⟩ := List.mem_map.1 hs
      rw [String.toList_append, List.getLast?_append_of_ne_nil _ y.nonempty]
      exact ⟨List.append_ne_nil_of_right_ne_nil _ y.nonempty, y.last⟩

/-- Every comma but the last is a separator. -/
theorem intercalate_commas (x : Condition) (rest : List Condition) :
    " ".intercalate ((x :: rest).map fun x => x.text ++ ",") = ", ".intercalate ((x :: rest).map text) ++ "," := by
  induction rest generalizing x with
  | nil => simp
  | cons y rest ih =>
    have hseparator : ", " = "," ++ " " := rfl
    have ih := ih y
    simp only [List.map_cons] at ih ⊢
    rw [String.intercalate_cons_cons, ih, String.intercalate_cons_cons, hseparator]
    simp only [String.append_assoc]

theorem wrap?_set {conditions : List Condition} (h : ∀ x ∈ conditions.head?, x.text.toList.head? ≠ some ',') :
    Clause.set.wrap? (" ".intercalate (conditions.map fun x => x.text ++ ",")) = set? conditions := by
  cases conditions with
  | nil => decide +kernel
  | cons x rest =>
    rw [intercalate_commas, List.map_cons, Clause.wrap?_set (x.intercalate_ne_nil _ _)]
    · rfl
    · rw [head?_intercalate x.nonempty]
      exact x.head
    · rw [head?_intercalate x.nonempty]
      exact h x rfl
    · rw [← List.map_cons]
      refine getLast?_intercalate (by simp) fun s hs => ?_
      obtain ⟨y, -, rfl⟩ := List.mem_map.1 hs
      exact ⟨y.nonempty, y.last⟩

end Condition

/-- A clause writes the conditions that hold, or nothing if none does, and leaves the context as it was. -/
theorem Node.render_conditions (c : Context) :
    (∀ conditions : List (Connective × Condition),
      (∀ x ∈ conditions, (∃ t, Expr.evalTest c.bindings x.2.test = .ok t) ∧ x.2.body.IsText (x.1.text ++ x.2.text)) →
        let clause := Condition.where? (conditions.filter fun x => x.2.holds c.bindings)
        run (Node.clause .where .where (.sequence (conditions.map fun x => x.2.node))).render c =
          (.ok clause.isSome, { c with fragments := c.fragments ++ clause.toList })) ∧
      ∀ conditions : List Condition,
        (∀ x ∈ conditions, (∃ t, Expr.evalTest c.bindings x.test = .ok t) ∧ x.body.IsText (x.text ++ ",")) →
          let present := conditions.filter fun x => x.holds c.bindings
          (∀ x ∈ present.head?, x.text.toList.head? ≠ some ',') →
            let clause := Condition.set? present
            run (Node.clause .set .set (.sequence (conditions.map fun x => x.node))).render c =
              (.ok clause.isSome, { c with fragments := c.fragments ++ clause.toList }) := by
  constructor
  · intro conditions h clause
    have hall := renderAll_conditions (c := { c with fragments := [] }) Prod.snd
      (fun x : Connective × Condition => x.1.text ++ x.2.text) h
    refine render_clause_ok.2 ⟨true, _, render_sequence_ok.2 ⟨rfl, hall⟩, ?_⟩
    simp [Condition.wrap?_where, clause]
  · intro conditions h present hcomma clause
    have hall := renderAll_conditions (c := { c with fragments := [] }) (fun x => x) (fun x => x.text ++ ",") h
    refine render_clause_ok.2 ⟨true, _, render_sequence_ok.2 ⟨rfl, hall⟩, ?_⟩
    simp [Condition.wrap?_set hcomma, clause, present]

/-- The first condition does not hold, and the second begins like a connective. -/
theorem Node.render_conditions_second :
    let c := Context.initial (.map [("name", .null), ("id", .int 4)]) none
    let name (body : Node) : Condition := ⟨.ident "name", body, "NAME = 1", by decide, by simp [isBlank], by simp [isBlank]⟩
    let order (body : Node) : Condition := ⟨.ident "id", body, "ORDER_ID = 2", by decide, by simp [isBlank], by simp [isBlank]⟩
    let also : Connective := ⟨"AND".toList, ' ', by decide, by decide⟩
    let either : Connective := ⟨"oR".toList, '\t', by decide, by decide⟩
    let filters := [(also, name (.text "AND NAME = 1")), (either, order (.sequence [.text "oR\tORDER_ID = 2"]))]
    let updates := [order (.sequence [.text "ORDER_ID = 2,"]), name (.text "NAME = 1,")]
    run (Node.clause .where .where (.sequence (filters.map fun x => x.2.node))).render c =
        (.ok true, { c with fragments := ["WHERE ORDER_ID = 2"] }) ∧
      run (Node.clause .set .set (.sequence (updates.map fun x => x.node))).render c =
        (.ok true, { c with fragments := ["SET ORDER_ID = 2"] }) := by
  intro c name order also either filters updates
  have hname (body : Node) : Expr.evalTest c.bindings (name body).test = .ok false := by rfl
  have horder (body : Node) : Expr.evalTest c.bindings (order body).test = .ok true := by rfl
  have hwhere := (Node.render_conditions c).1 filters (by
    simp only [filters, List.forall_mem_cons]
    exact ⟨⟨⟨_, hname _⟩, .text⟩, ⟨⟨_, horder _⟩, .sequence .text⟩, by simp⟩)
  have hset := (Node.render_conditions c).2 updates (by
    simp only [updates, List.forall_mem_cons]
    exact ⟨⟨⟨_, horder _⟩, .sequence .text⟩, ⟨⟨_, hname _⟩, .text⟩, by simp⟩) (by decide +kernel)
  exact ⟨hwhere, hset⟩

end SqlTemplate
