import SqlTemplate.Expr.Evaluate
import SqlTemplate.Proofs.Expr.RoundTrip
import SqlTemplate.Proofs.Mapping.Spelling
import SqlTemplate.Proofs.Mapping.Values

/-! # Paths in expressions and in placeholders

A path of names and positions can be written in an expression and in a placeholder. The two are read by grammars of their own and
followed by functions of their own, and come to the same. Only the least integer has no literal in an expression.
-/

namespace SqlTemplate

open Text

/-! ## Positions as text -/

namespace Number

theorem mem_intText {n : Int} {c : Char} (h : c ∈ intText n) : c = '-' ∨ c.isDigit = true := by
  have hdigit := isDigit_toDigits n.natAbs c
  unfold intText at h
  split at h
  · exact (List.mem_cons.1 h).imp_right hdigit
  · exact .inr (hdigit h)

theorem readInt?_run {digits : List Char} (hne : digits ≠ []) (hdigits : ∀ c ∈ digits, c.isDigit = true) :
    readInt? digits = some (Nat.ofDigitChars 10 digits 0 : Int) := by
  have hread := readDigits?_run hne hdigits
  obtain ⟨c, cs, rfl⟩ := List.exists_cons_of_ne_nil hne
  have hc := hdigits c List.mem_cons_self
  have hminus : c ≠ '-' := by
    rintro rfl
    cases hc
  have hplus : c ≠ '+' := by
    rintro rfl
    cases hc
  rw [readInt?, readNat?, hread]
  · rfl
  · simpa using hplus
  · simpa using hminus

theorem readInt?_intText (n : Int) : readInt? (intText n) = some n := by
  unfold intText
  split
  · rename_i hneg
    have hnat : -(n.natAbs : Int) = n := by omega
    rw [readInt?, readDigits?_toDigits]
    exact congrArg some hnat
  · rename_i hpos
    rw [readInt?_run Nat.toDigits_ne_nil (isDigit_toDigits _), Nat.ofDigitChars_ten_toDigits, Option.some.injEq]
    exact Int.natAbs_of_nonneg (by omega)

theorem readInt64?_intText (k : Int64) : readInt64? (intText k.toInt) = some k := by
  rw [readInt64?, readInt?_intText, Option.bind_some, toInt64?_toInt]

end Number

theorem Value.toList_intText (k : Int64) : (Value.intText k).toList = Number.intText k.toInt := by
  rw [Value.intText, String.toList_ofList]

theorem Value.unquote_intText (k : Int64) : Value.unquote (Value.intText k) = Value.intText k := by
  have hquote {c : Char} (hc : c ∈ Number.intText k.toInt) : Value.isQuote c = false := by
    rcases Number.mem_intText hc with rfl | hc
    · rfl
    · rw [isQuote, Bool.or_eq_false_iff, beq_eq_false_iff_ne, beq_eq_false_iff_ne]
      constructor
      · rintro rfl
        cases hc
      · rintro rfl
        cases hc
  rw [unquote, toList_intText, dropWhile_self fun c hc => hquote (List.mem_of_mem_head? hc),
    dropWhile_self fun c hc => hquote (List.mem_reverse.1 (List.mem_of_mem_head? hc)), List.reverse_reverse, intText]

/-! ## Hops -/

/-- What a path does after its root. -/
inductive Hop
  | property (name : String)
  | item (position : Int64)

namespace Hop

def chars : Hop → List Char
  | property name => '.' :: name.toList
  | item position => '[' :: (Number.intText position.toInt ++ [']'])

/-- The step of a placeholder's path. -/
def toStep : Hop → Step
  | property name => .property name
  | item position => .index (Value.intText position)

/-- The expression that goes on from another. -/
def onto (target : Expr) : Hop → Expr
  | property name => .property target name
  | item position => .index target (.literal (.int position))

/-- A property is a name, and none that stands for a size. -/
def Plain : Hop → Prop
  | property name => Expr.IsName name ∧ Value.isSizeName name = false
  | item _ => True

theorem chars_visible {hop : Hop} (h : hop.Plain) : ∀ c ∈ hop.chars, isBlank c = false := by
  cases hop with
  | property name => exact List.forall_mem_cons.2 ⟨by decide, fun c hc => isBlank_of_isNameChar (h.1.chars c hc)⟩
  | item position =>
    refine List.forall_mem_cons.2 ⟨by decide, List.forall_mem_append.2 ⟨fun c hc => ?_, by simp; decide⟩⟩
    rcases Number.mem_intText hc with rfl | hc
    · decide
    · exact isBlank_of_isDigit hc

end Hop

section Path

variable {root : String} {hops : List Hop}

def pathChars (root : String) (hops : List Hop) : List Char := root.toList ++ hops.flatMap Hop.chars

/-- The path as it is written. -/
def pathText (root : String) (hops : List Hop) : String := .ofList (pathChars root hops)

theorem pathChars_visible (hroot : Expr.IsName root) (hplain : ∀ hop ∈ hops, hop.Plain) :
    ∀ c ∈ pathChars root hops, isBlank c = false := by
  refine List.forall_mem_append.2 ⟨fun c hc => isBlank_of_isNameChar (hroot.chars c hc), fun c hc => ?_⟩
  obtain ⟨hop, hhop, hc⟩ := List.mem_flatMap.1 hc
  exact Hop.chars_visible (hplain hop hhop) c hc

theorem trim_visible {cs : List Char} (h : ∀ c ∈ cs, isBlank c = false) : trim cs = cs := by
  rw [trim, trimStart_self fun c hc => h c (List.mem_of_mem_head? hc), trimEnd_self fun c hc => h c (List.mem_of_mem_getLast? hc)]

/-! ## In a placeholder -/

theorem hops_head (hops : List Hop) : ∀ c ∈ (hops.flatMap Hop.chars).head?, isNameChar c = false := by
  cases hops with
  | nil => simp
  | cons hop hops =>
    cases hop with
    | property name =>
      rintro c ⟨⟩
      decide
    | item position =>
      rintro c ⟨⟩
      decide

theorem readAll?_hops (hplain : ∀ hop ∈ hops, hop.Plain) : Step.readAll? (hops.flatMap Hop.chars) = some (hops.map Hop.toStep) := by
  induction hops with
  | nil =>
    rw [List.flatMap_nil, Step.readAll?]
    rfl
  | cons hop hops ih =>
    rw [List.forall_mem_cons] at hplain
    have hrest := ih hplain.2
    rw [List.flatMap_cons, List.map_cons]
    cases hop with
    | property name =>
      obtain ⟨hname, -⟩ := hplain.1
      obtain ⟨htake, hdrop⟩ := run_split hname.chars (hops_head hops)
      have hne : name.toList ≠ [] := by
        obtain ⟨c, cs, hchars, -⟩ := hname
        simp [hchars]
      rw [Hop.chars, List.cons_append, Step.readAll?_property, htake, hdrop, if_neg (by simpa using hne), hrest,
        String.ofList_toList]
      rfl
    | item position =>
      -- A position has digits and a sign only, and so neither ends the bracket nor is trimmed.
      have hkey : ']' ∉ Number.intText position.toInt := by
        intro hmem
        rcases Number.mem_intText hmem with h | h <;> cases h
      have htrim : trim (Number.intText position.toInt) = Number.intText position.toInt := by
        refine trim_visible fun c hc => ?_
        rcases Number.mem_intText hc with rfl | hc
        · decide
        · exact isBlank_of_isDigit hc
      rw [Hop.chars, List.cons_append, List.append_assoc, List.singleton_append, Step.readAll?_index, breakOn_append hkey]
      simp only [hrest, htrim, Option.map_some]
      rfl

theorem Path.parse_pathText (hroot : Expr.IsName root) (hplain : ∀ hop ∈ hops, hop.Plain) :
    Path.parse (pathText root hops) = ⟨pathText root hops, .property root, hops.map Hop.toStep⟩ := by
  have htrim := trim_visible (pathChars_visible hroot hplain)
  obtain ⟨htake, hdrop⟩ := run_split hroot.chars (hops_head hops)
  have hne : root.toList ≠ [] := by
    obtain ⟨c, cs, hchars, -⟩ := hroot
    simp [hchars]
  have hsteps : Path.readSteps? (pathChars root hops) = some (.property root, hops.map Hop.toStep) := by
    rw [Path.readSteps?, pathChars, htake, hdrop, if_neg (by simpa using hne), readAll?_hops hplain, String.ofList_toList]
    rfl
  rw [Path.parse, pathText, String.toList_ofList, htrim, hsteps]

end Path

/-! ## In an expression -/

namespace Expr

variable {root : String} {hops : List Hop} {target e : Expr} {s rest : List Char} {limit : Nat}

/-- The expression that a path is. -/
def ofPath (root : String) (hops : List Hop) : Expr := hops.foldl Hop.onto (.ident root)

theorem ofPath_concat (root : String) (hops : List Hop) (hop : Hop) : ofPath root (hops ++ [hop]) = hop.onto (ofPath root hops) := by
  rw [ofPath, List.foldl_append]
  rfl

theorem chars_int (k : Int64) : chars (.literal (.int k)) = Number.intText k.toInt := by
  rw [chars, Value.text, Value.toList_intText]
  intro s hs
  cases hs

theorem chars_onto (target : Expr) (hop : Hop) : (hop.onto target).chars = target.chars ++ hop.chars := by
  cases hop with
  | property name => rw [Hop.onto, chars, Hop.chars]
  | item position => rw [Hop.onto, chars, Hop.chars, chars_int, List.append_assoc, List.cons_append]

theorem chars_ofPath (root : String) (hops : List Hop) : (ofPath root hops).chars = pathChars root hops := by
  induction hops using List.reverseRecOn with
  | nil => simp [ofPath, pathChars, chars]
  | append_singleton hops hop ih =>
    rw [ofPath_concat, chars_onto, ih, pathChars, pathChars, List.flatMap_append, List.flatMap_singleton, List.append_assoc]

theorem takesSteps_ofPath (root : String) (hops : List Hop) : (ofPath root hops).takesSteps = true := by
  induction hops using List.reverseRecOn with
  | nil => rfl
  | append_singleton hops hop ih =>
    rw [ofPath_concat]
    cases hop <;> rfl

theorem legible_ofPath (hroot : IsName root) (hfree : root ∉ reserved) (hplain : ∀ hop ∈ hops, hop.Plain)
    (hleast : .item Int64.minValue ∉ hops) : Legible (ofPath root hops) := by
  induction hops using List.reverseRecOn with
  | nil => exact .ident hroot hfree
  | append_singleton hops hop ih =>
    rw [List.forall_mem_append, List.forall_mem_singleton] at hplain
    rw [List.mem_append, List.mem_singleton, not_or] at hleast
    have hlegible := ih hplain.1 hleast.1
    have hsteps := takesSteps_ofPath root hops
    rw [ofPath_concat]
    cases hop with
    | property name => exact .property hlegible hsteps hplain.2.1
    | item position =>
      refine .index hlegible hsteps (.int ?_)
      rintro rfl
      exact hleast.2 rfl

/-! ### The least integer -/

/-- A number that is too great is an error at once, whatever could stand for the digits otherwise. -/
theorem unaries_overflow {n : Nat} (hn : Number.toInt64? n = none) (sub : Parser Expr) (hrest : Detached rest) :
    unaries (postfixed sub) (Nat.toDigits 10 n ++ rest) = .failure (Nat.toDigits 10 n ++ rest) := by
  have hnumber : number (Nat.toDigits 10 n ++ rest) = .failure (Nat.toDigits 10 n ++ rest) := by
    rw [number_digits n hrest, hn]
  have hunary : takeUnary? (Nat.toDigits 10 n ++ rest) = none := by
    obtain ⟨c, cs, hdigits, hc⟩ := exists_toDigits n
    rw [hdigits]
    exact takeUnary?_digit hc _
  rw [unaries_none hunary, postfixed, primary, Reader.orElse_failure hnumber]

theorem unaries_failure {operand : Parser Expr} {op : UnaryOp} {after at_ : List Char} (h : takeUnary? s = some (op, after))
    (hread : unaries operand (skipGaps after) = .failure at_) : unaries operand s = .failure at_ := by
  rw [unaries]
  split
  · rename_i heq
    rw [h] at heq
    cases heq
    rw [hread]
  · rename_i heq
    rw [h] at heq
    cases heq

/-- The digits of the least integer are a number too great. A sign before them makes no difference, for it is put to a number that
was read. -/
theorem nested_least (limit : Nat) (rest : List Char) :
    ∃ at_, nested (limit + 1) (Number.intText Int64.minValue.toInt ++ ']' :: rest) = .failure at_ := by
  have htext : Number.intText Int64.minValue.toInt = '-' :: Nat.toDigits 10 9223372036854775808 := by decide +kernel
  have hclosing : ']' ∈ [')', ']', '}', ',', ':'] := by decide
  have hdigits := unaries_overflow (n := 9223372036854775808) (by decide) (nested limit) (stops_closing hclosing rest).apart.detached
  rw [← skipGaps_toDigits] at hdigits
  have hread := unaries_failure (s := '-' :: (Nat.toDigits 10 9223372036854775808 ++ ']' :: rest)) rfl hdigits
  have hundone (e : Expr) (after : List Char) : unaries (postfixed (nested limit))
      ('-' :: (Nat.toDigits 10 9223372036854775808 ++ ']' :: rest)) ≠ .done e after := by simp [hread]
  rw [htext, List.cons_append, nested, conditionalWith, (binaries_undone hundone levels).trans hread]
  exact ⟨_, rfl⟩

theorem step?_least (limit : Nat) (target : Expr) (rest : List Char) :
    step? (nested limit) target (Hop.chars (.item Int64.minValue) ++ rest) = none := by
  have hmember (s : List Char) : member ('[' :: s) = .mismatch ('[' :: s) := rfl
  have hgaps : skipGaps (Number.intText Int64.minValue.toInt ++ ']' :: rest) = Number.intText Int64.minValue.toInt ++ ']' :: rest :=
    rfl
  rw [Hop.chars, List.cons_append, List.append_assoc, List.singleton_append, step?, hmember]
  cases limit with
  | zero =>
    have hread : bracketed '[' ']' (nested 0) ('[' :: (Number.intText Int64.minValue.toInt ++ ']' :: rest)) =
        .mismatch (Number.intText Int64.minValue.toInt ++ ']' :: rest) := by
      rw [bracketed, Reader.bind_done (char_done '[' _)]
      exact Reader.bind_mismatch (Reader.spaced_mismatch (e := Number.intText Int64.minValue.toInt ++ ']' :: rest) rfl) _
    simp only [hread]
  | succ limit =>
    obtain ⟨at_, hleast⟩ := nested_least limit rest
    have hread : bracketed '[' ']' (nested (limit + 1)) ('[' :: (Number.intText Int64.minValue.toInt ++ ']' :: rest)) =
        .failure at_ := by
      rw [bracketed, Reader.bind_done (char_done '[' _)]
      exact Reader.bind_failure (Reader.spaced_failure (by rw [hgaps, hleast])) _
    simp only [hread]

/-! ### The whole text -/

/-- A primary with steps is read up to a text that is no step and no operator. -/
theorem ReadsSteps.readAll (h : ReadsSteps e) {rest : List Char} (hdetached : Detached rest)
    (hstep : ∀ limit, step? (nested limit) e rest = none)
    (hlevels : ∀ l ∈ levels, takeOperator? l (skipGaps rest) = none) (hmark : (skipGaps rest).head? ≠ some '?') :
    readAll (e.chars ++ rest) =
      match trimStart rest with
      | [] => .ok e
      | more => .error (.unexpected (.ofList more) (offsetOf (e.chars ++ rest) more)) := by
  have hlength : e.chars.length ≤ (e.chars ++ rest).length := by simp
  obtain ⟨hunary, fuel, -, hread⟩ := h (e.chars ++ rest).length rest hlength hdetached
  have hsteps : steps (nested (e.chars ++ rest).length) fuel e rest = .done e rest := by
    cases fuel with
    | zero => rfl
    | succ fuel => simp only [steps, hstep]
  have hoperand : unaries (postfixed (nested (e.chars ++ rest).length)) (e.chars ++ rest) = .done e rest :=
    (unaries_none hunary).trans (hread.trans hsteps)
  have hnested : nested ((e.chars ++ rest).length + 1) (e.chars ++ rest) = .done e rest := by
    rw [nested, conditionalWith, binaries_stops hoperand hlevels]
    dsimp only
    split
    · rename_i after hafter
      rw [hafter] at hmark
      exact absurd rfl hmark
    · rfl
  cases htrim : trimStart rest <;> simp only [Expr.readAll, hnested, htrim]

/-- A path is an expression unless one of its positions is the least integer. -/
theorem parse_pathText (hroot : IsName root) (hfree : root ∉ reserved) (hplain : ∀ hop ∈ hops, hop.Plain) :
    (.item Int64.minValue ∉ hops → parse (pathText root hops) = .ok (ofPath root hops)) ∧
      (.item Int64.minValue ∈ hops → ∃ fault, parse (pathText root hops) = .error fault) := by
  have hvisible := pathChars_visible hroot hplain
  have hempty : (pathChars root hops).isEmpty = false := by
    obtain ⟨c, cs, hchars, -⟩ := hroot
    simp [pathChars, hchars]
  have hparse : parse (pathText root hops) =
      (readAll (pathChars root hops)).mapError fun fault => ⟨.ofList (pathChars root hops), fault⟩ := by
    rw [parse, pathText, String.toList_ofList, trim_visible hvisible]
    simp only [hempty]
    rfl
  constructor
  · intro hleast
    have hreads := (legible_ofPath hroot hfree hplain hleast).reads.2 (takesSteps_ofPath root hops)
    have hread := @ReadsSteps.readAll _ hreads [] ⟨rfl, by simp, rfl⟩ (fun _ => rfl) (by decide) (by simp [skipGaps])
    rw [List.append_nil, chars_ofPath] at hread
    rw [hparse, hread]
    rfl
  · intro hmem
    -- The expression ends before the first position that is the least integer.
    obtain ⟨before, after, rfl, hbefore⟩ := List.eq_append_cons_of_mem hmem
    rw [List.forall_mem_append] at hplain
    have hreads := (legible_ofPath hroot hfree hplain.1 hbefore).reads.2 (takesSteps_ofPath root before)
    have hread := @ReadsSteps.readAll _ hreads (Hop.chars (.item Int64.minValue) ++ after.flatMap Hop.chars)
      ⟨rfl, by simp [Hop.chars], rfl⟩ (fun limit => step?_least limit _ _) (fun l hl => ?_) (by simp [Hop.chars, skipGaps, isGap])
    · have hchars : pathChars root (before ++ .item Int64.minValue :: after) =
          (ofPath root before).chars ++ (Hop.chars (.item Int64.minValue) ++ after.flatMap Hop.chars) := by
        rw [chars_ofPath, pathChars, pathChars, List.flatMap_append, List.flatMap_cons, List.append_assoc]
      rw [hparse, hchars, hread]
      exact ⟨_, rfl⟩
    · have hall : (levels.all fun l => (takeOperator? l (skipGaps (Hop.chars (.item Int64.minValue) ++
          after.flatMap Hop.chars))).isNone) = true := rfl
      exact Option.isNone_iff_eq_none.1 (List.all_eq_true.1 hall l hl)

end Expr

/-! ## What a path leads to -/

theorem Value.select?_append (v : Value) (first rest : List Step) :
    v.select? (first ++ rest) = (v.select? first).bind (·.select? rest) := by
  induction first generalizing v with
  | nil => rfl
  | cons step first ih =>
    rw [List.cons_append, select?, select?, Option.bind_assoc]
    exact congrArg (Option.bind (v.step? step)) (funext ih)

namespace Expr

variable {b : Bindings} {root : String} {hops : List Hop}

/-- An expression has the value that was found, or it is unresolved and nothing was found. -/
def Finds (r : Except EvalError Value) : Option Value → Prop
  | some v => r = .ok v
  | none => ∃ u, r = .error (.unresolved u)

theorem finds_orUnresolved (b : Bindings) (e : Expr) (found : Option Value) : Finds (orUnresolved b e found) found := by
  cases found with
  | none => exact ⟨_, rfl⟩
  | some v => rfl

/-- One hop. A map has its entry and a list its item in both ways, and anything else has nothing. -/
theorem Finds.onto {target : Expr} {found : Option Value} (h : Finds (target.eval b) found) {hop : Hop} (hplain : hop.Plain) :
    Finds ((hop.onto target).eval b) (found.bind (·.step? hop.toStep)) := by
  cases found with
  | none =>
    obtain ⟨u, hu⟩ := h
    refine ⟨u, ?_⟩
    cases hop <;> rw [Hop.onto, eval, hu] <;> rfl
  | some v =>
    have hv : target.eval b = .ok v := h
    rw [Option.bind_some]
    cases hop with
    | property name =>
      have hsize : v.sizeProperty? name = none := by cases v <;> simp [Value.sizeProperty?, hplain.2]
      rw [Hop.onto, eval, hv, Computation.except_ok_bind, evalProperty, hsize]
      exact finds_orUnresolved b _ _
    | item position =>
      have hindex : v.index? (.int position) = v.step? (Hop.item position).toStep := by
        cases v with
        | list items =>
          rw [Hop.toStep, Value.step?, Value.unquote_intText, Value.toList_intText, Number.readInt64?_intText]
          rfl
        | map entries => simp [Hop.toStep, Value.step?, Value.unquote_intText, Value.index?, Value.isScalar, Value.text]
        | _ => rfl
      rw [Hop.onto, eval, hv, Computation.except_ok_bind, eval, Computation.except_ok_bind, hindex]
      exact finds_orUnresolved b _ _

theorem finds_ofPath {v : Value} (hroot : (Expr.ident root).eval b = .ok v) (hplain : ∀ hop ∈ hops, hop.Plain) :
    Finds ((ofPath root hops).eval b) (v.select? (hops.map Hop.toStep)) := by
  induction hops using List.reverseRecOn with
  | nil => exact hroot
  | append_singleton hops hop ih =>
    rw [List.forall_mem_append, List.forall_mem_singleton] at hplain
    rw [ofPath_concat, List.map_append, Value.select?_append]
    simpa [Value.select?] using (ih hplain.1).onto hplain.2

/-- A path in a test and the same path in a placeholder have the same value, or both lead nowhere. It is an expression unless one of
its positions is the least integer. -/
theorem navigation_agrees {entries : List (String × Value)} {s : BoundSql} {m : ParameterMapping} (hroot : IsName root)
    (hfree : root ∉ reserved) (hplain : ∀ hop ∈ hops, hop.Plain)
    (hparameter : Dict.get? s.additional parameterKey = some (.map entries)) (hmode : m.mode = .input)
    (hproperty : m.property = pathText root hops) :
    ((∃ e, parse (pathText root hops) = .ok e) ↔ .item Int64.minValue ∉ hops) ∧
      ∀ e, parse (pathText root hops) = .ok e →
        (∃ v, e.eval s.additional = .ok v ∧ s.resolve (.map entries) m = .ok v) ∨
          ∃ u u', e.eval s.additional = .error (.unresolved u) ∧ s.resolve (.map entries) m = .error u' := by
  obtain ⟨hreads, hrejects⟩ := parse_pathText hroot hfree hplain
  refine ⟨⟨?_, fun hleast => ⟨_, hreads hleast⟩⟩, fun e he => ?_⟩
  · rintro ⟨e, he⟩ hmem
    obtain ⟨fault, hfault⟩ := hrejects hmem
    rw [he] at hfault
    cases hfault
  · have hleast : .item Int64.minValue ∉ hops := by
      intro hmem
      obtain ⟨fault, hfault⟩ := hrejects hmem
      rw [he] at hfault
      cases hfault
    obtain rfl : ofPath root hops = e := by simpa [hreads hleast] using he
    -- Both begin with what the name is bound to, or else with what the parameter has under it.
    obtain ⟨v, hlookup, hfind⟩ : ∃ v, (Expr.ident root).eval s.additional = .ok v ∧
        s.find? (.map entries) (Path.parse m.property) = v.select? (hops.map Hop.toStep) := by
      have hroot' : (⟨pathText root hops, .property root, hops.map Hop.toStep⟩ : Path).root = root := rfl
      rw [hproperty, Path.parse_pathText hroot hplain, eval, Bindings.lookup, BoundSql.find?, hroot']
      cases Dict.get? s.additional root with
      | some v => exact ⟨v, rfl, rfl⟩
      | none =>
        have hwhole : Bindings.parameter s.additional = .map entries := by rw [Bindings.parameter, hparameter, Option.getD_some]
        rw [hwhole]
        exact ⟨_, rfl, rfl⟩
    have hfinds := finds_ofPath hlookup hplain
    have hnot : m.mode ≠ .output := by simp [hmode]
    rw [BoundSql.resolve, if_neg hnot, hfind]
    cases hselect : v.select? (hops.map Hop.toStep) with
    | some w =>
      rw [hselect] at hfinds
      exact .inl ⟨w, hfinds, rfl⟩
    | none =>
      rw [hselect] at hfinds
      obtain ⟨u, hu⟩ := hfinds
      exact .inr ⟨u, _, hu, rfl⟩

/-- A binding goes before an entry of the parameter, a negative position is the key of a map, and a list has no such item. -/
theorem navigation_agrees_negative :
    ∃ (s : BoundSql) (m : ParameterMapping) (root : String) (hops : List Hop) (parameter : Value),
      pathText root hops = "row[-1].tags[0]" ∧ IsName root ∧ root ∉ reserved ∧ (∀ hop ∈ hops, hop.Plain) ∧
      parameter = .map [("row", .int 5)] ∧ Dict.get? s.additional parameterKey = some parameter ∧
      Dict.get? s.additional root = some (.map [("-1", .map [("tags", .list [.string "new"])])]) ∧
      m.mode = .input ∧ m.property = pathText root hops ∧
      ((∃ e, parse (pathText root hops) = .ok e) ↔ .item Int64.minValue ∉ hops) ∧
      (s.resolve parameter m).toOption.map Value.text = some "new" ∧
      ∀ e, parse (pathText root hops) = .ok e →
        (∃ v, e.eval s.additional = .ok v ∧ s.resolve parameter m = .ok v) ∨
          ∃ u u', e.eval s.additional = .error (.unresolved u) ∧ s.resolve parameter m = .error u' := by
  let entries : List (String × Value) := [("row", .int 5)]
  let row : Value := .map [("-1", .map [("tags", .list [.string "new"])])]
  let s : BoundSql := ⟨⟨"", []⟩, [("_parameter", .map entries), ("row", row)]⟩
  let m : ParameterMapping := ⟨"row[-1].tags[0]", .object, none, none, .input, none, none, none⟩
  have hrow : IsName "row" := ⟨'r', ['o', 'w'], by decide, by decide, List.all_eq_true.1 (by decide)⟩
  have htags : IsName "tags" := ⟨'t', ['a', 'g', 's'], by decide, by decide, List.all_eq_true.1 (by decide)⟩
  have hplain : ∀ hop ∈ [.item (-1), .property "tags", .item 0], Hop.Plain hop := by
    intro hop hhop
    simp only [List.mem_cons, List.not_mem_nil, or_false] at hhop
    rcases hhop with rfl | rfl | rfl
    · trivial
    · exact ⟨htags, by decide⟩
    · trivial
  have htext : pathText "row" [.item (-1), .property "tags", .item 0] = "row[-1].tags[0]" := by decide +kernel
  obtain ⟨hparse, hagrees⟩ :=
    @navigation_agrees "row" [.item (-1), .property "tags", .item 0] entries s m hrow (by decide) hplain rfl rfl htext.symm
  exact ⟨s, m, "row", _, _, htext, hrow, by decide, hplain, rfl, rfl, rfl, rfl, htext.symm, hparse, by decide +kernel, hagrees⟩

/-- A placeholder takes the least integer for a position, and an expression does not. -/
theorem least_position_rejected :
    ∃ (s : BoundSql) (m : ParameterMapping) (parameter : Value) (fault : ParseError),
      pathText "a" [.item Int64.minValue] = "a[-9223372036854775808]" ∧
      parameter = .map [("a", .map [("-9223372036854775808", .int 7)])] ∧
      s.additional = Bindings.initial parameter none ∧ m.mode = .input ∧ m.property = "a[-9223372036854775808]" ∧
      parse "a[-9223372036854775808]" = .error fault ∧ s.resolve parameter m = .ok (.int 7) := by
  let parameter : Value := .map [("a", .map [("-9223372036854775808", .int 7)])]
  let m : ParameterMapping := ⟨"a[-9223372036854775808]", .object, none, none, .input, none, none, none⟩
  have htext : pathText "a" [.item Int64.minValue] = "a[-9223372036854775808]" := by decide +kernel
  have ha : IsName "a" := ⟨'a', [], by decide, by decide, List.all_eq_true.1 (by decide)⟩
  obtain ⟨fault, hfault⟩ := (@parse_pathText "a" [.item Int64.minValue] ha (by decide) (by simp [Hop.Plain])).2 (by simp)
  have hpath := @Path.parse_pathText "a" [.item Int64.minValue] ha (by simp [Hop.Plain])
  rw [htext] at hfault hpath
  refine ⟨⟨⟨"", []⟩, Bindings.initial parameter none⟩, m, parameter, fault, htext, rfl, rfl, rfl, rfl, hfault, ?_⟩
  have hkey : Value.unquote "-9223372036854775808" = "-9223372036854775808" := by decide +kernel
  have hleast : Value.intText Int64.minValue = "-9223372036854775808" := by decide +kernel
  have hfind : (⟨⟨"", []⟩, Bindings.initial parameter none⟩ : BoundSql).find? parameter (Path.parse m.property) = some (.int 7) := by
    rw [hpath, BoundSql.find?, Bindings.get?_initial, if_neg (by decide), if_neg (by decide)]
    simp [Path.steps, Hop.toStep, Value.select?, Value.step?, Value.property?, Value.index?, Value.isScalar, Value.text, hleast, hkey,
      Dict.get?]
  rw [BoundSql.resolve, if_neg (by decide), hfind]

end Expr

end SqlTemplate
