import SqlTemplate.Proofs.Expr.Words

/-! # Expressions that their text tells

Names have to be names, and the text of a number or of a unary operation must not run into a sign or a step that stands beside it.
-/

namespace SqlTemplate.Expr

open Text

variable {e : Expr}

/-- Whether a step after the text of the expression is a step from the whole expression. -/
def takesSteps : Expr → Bool
  | .unary _ _ => false
  | .literal (.int n) => 0 ≤ n.toInt
  | _ => true

/-- An expression that its text tells. -/
inductive Legible : Expr → Prop
  | null : Legible (.literal .null)
  | bool (b : Bool) : Legible (.literal (.bool b))
  | int {n : Int64} (hn : n ≠ Int64.minValue) : Legible (.literal (.int n))
  | string {s : String} (hs : '\\' ∉ s.toList) : Legible (.literal (.string s))
  | ident {name : String} (hname : IsName name) (hfree : name ∉ reserved) : Legible (.ident name)
  | binding {name : String} (hname : IsName name) : Legible (.binding name)
  | property {target : Expr} {name : String} (htarget : Legible target) (hsteps : target.takesSteps = true) (hname : IsName name) :
    Legible (.property target name)
  | index {target key : Expr} (htarget : Legible target) (hsteps : target.takesSteps = true) (hkey : Legible key) :
    Legible (.index target key)
  | call {target : Expr} {method : String} {args : List Expr} (htarget : Legible target) (hsteps : target.takesSteps = true)
    (hmethod : IsName method) (hargs : ∀ arg ∈ args, Legible arg) : Legible (.call target method args)
  | not {operand : Expr} (hoperand : Legible operand) : Legible (.unary .not operand)
  | neg {operand : Expr} (hoperand : Legible operand) (hint : ∀ n, operand ≠ .literal (.int n)) : Legible (.unary .neg operand)
  | binary {left right : Expr} (op : BinaryOp) (hleft : Legible left) (hright : Legible right) : Legible (.binary left op right)
  | conditional {test yes no : Expr} (htest : Legible test) (hyes : Legible yes) (hno : Legible no) :
    Legible (.conditional test yes no)
  | list {items : List Expr} (hitems : ∀ item ∈ items, Legible item) : Legible (.list items)
  | map {entries : List (Expr × Expr)} (hkeys : ∀ entry ∈ entries, Legible entry.1) (hvalues : ∀ entry ∈ entries, Legible entry.2) :
    Legible (.map entries)

theorem itemChars_eq (items : List Expr) : itemChars items = items.map chars := by
  induction items with
  | nil => rfl
  | cons item items ih => rw [itemChars, ih, List.map_cons]

theorem entryChars_eq (entries : List (Expr × Expr)) :
    entryChars entries = entries.map fun entry => entry.1.chars ++ [':', ' '] ++ entry.2.chars := by
  induction entries with
  | nil => rfl
  | cons entry entries ih => rw [entryChars, ih, List.map_cons]

/-! ## The ends of a text -/

theorem chars_nonneg {n : Int64} (h : 0 ≤ n.toInt) : chars (.literal (.int n)) = Nat.toDigits 10 n.toInt.natAbs := by
  rw [chars, Value.text, Value.intText, String.toList_ofList, Number.intText, if_neg (by omega)]
  intro s hs
  cases hs

theorem toInt64?_neg {n : Int64} (h : n ≠ Int64.minValue) : Number.toInt64? (-n.toInt) = some (-n) := by
  have hlow := Int64.minValue_le_toInt n
  have hhigh := Int64.toInt_le n
  have hne : n.toInt ≠ Int64.minValue.toInt := fun heq => h (Int64.toInt_inj.1 heq)
  rw [Number.toInt64?, Int64.ofInt_neg, Int64.ofInt_toInt, if_pos]
  rw [Int64.toInt_minValue, Int64.toInt_maxValue] at *
  omega

theorem chars_negative {n : Int64} (h : n ≠ Int64.minValue) (hneg : n.toInt < 0) :
    chars (.literal (.int n)) = '-' :: chars (.literal (.int (-n))) := by
  have hopposite := Number.toInt_of_toInt64? (toInt64?_neg h)
  rw [chars_nonneg (n := -n) (by omega), hopposite, Int.natAbs_neg, chars, Value.text, Value.intText, String.toList_ofList,
    Number.intText, if_pos hneg]
  intro s hs
  cases hs

/-- A text begins with no gap, and with nothing that would join an exclamation mark before it. -/
theorem Legible.head (h : Legible e) : ∃ c cs, e.chars = c :: cs ∧ isBlank c = false ∧ c ≠ '=' := by
  have hname {name : String} (h : IsName name) : ∃ c cs, name.toList = c :: cs ∧ isBlank c = false ∧ c ≠ '=' := by
    obtain ⟨c, cs, hchars, hstart, -⟩ := h
    have hc := isNameChar_of_isNameStart c hstart
    refine ⟨c, cs, hchars, isBlank_of_isNameChar hc, ?_⟩
    rintro rfl
    cases hc
  have happend {target : Expr} (h : ∃ c cs, target.chars = c :: cs ∧ isBlank c = false ∧ c ≠ '=') (added : List Char) :
      ∃ c cs, target.chars ++ added = c :: cs ∧ isBlank c = false ∧ c ≠ '=' := by
    obtain ⟨c, cs, hchars, hc⟩ := h
    exact ⟨c, cs ++ added, by rw [hchars, List.cons_append], hc⟩
  induction h with
  | null => exact ⟨_, _, rfl, by decide, by decide⟩
  | bool b => cases b <;> exact ⟨_, _, rfl, by decide, by decide⟩
  | @int n hn =>
    -- A number begins with its sign or with a digit.
    by_cases hneg : n.toInt < 0
    · exact ⟨_, _, chars_negative hn hneg, by decide, by decide⟩
    · rw [chars_nonneg (by omega)]
      obtain ⟨c, cs, hdigits, hc⟩ := exists_toDigits n.toInt.natAbs
      refine ⟨c, cs, hdigits, isBlank_of_isDigit hc, ?_⟩
      rintro rfl
      cases hc
  | string hs => exact ⟨_, _, rfl, by decide, by decide⟩
  | ident h => exact hname h
  | binding => exact ⟨_, _, rfl, by decide, by decide⟩
  | property _ _ _ ih => exact happend ih _
  | index _ _ _ ih =>
    rw [chars, List.append_assoc]
    exact happend ih _
  | call _ _ _ _ ih =>
    rw [chars, List.append_assoc, List.append_assoc]
    exact happend ih _
  | not | neg | binary | conditional | list | map => exact ⟨_, _, rfl, by decide, by decide⟩

theorem Legible.last (h : Legible e) : ∀ c ∈ e.chars.getLast?, isBlank c = false := by
  have hname {name : String} (h : IsName name) (before : List Char) : ∀ c ∈ (before ++ name.toList).getLast?, isBlank c = false := by
    intro c hc
    obtain ⟨d, ds, hchars, -⟩ := id h
    rw [List.getLast?_append_of_ne_nil _ (by simp [hchars])] at hc
    exact isBlank_of_isNameChar (h.chars c (List.mem_of_getLast? hc))
  have hclosing (before : List Char) {closing : Char} (h : isBlank closing = false) :
      ∀ c ∈ (before ++ [closing]).getLast?, isBlank c = false := by
    simpa using h
  have hdigits (n : Nat) (before : List Char) : ∀ c ∈ (before ++ Nat.toDigits 10 n).getLast?, isBlank c = false := by
    intro c hc
    rw [List.getLast?_append_of_ne_nil _ Nat.toDigits_ne_nil] at hc
    exact isBlank_of_isDigit (Number.isDigit_toDigits n c (List.mem_of_getLast? hc))
  have hcons {c : Char} (hc : isBlank c = false) {cs : List Char} (h : ∀ d ∈ cs.getLast?, isBlank d = false) :
      ∀ d ∈ (c :: cs).getLast?, isBlank d = false := by
    cases cs with
    | nil => simpa using hc
    | cons d ds => simpa [List.getLast?_cons_cons] using h
  induction h with
  | null => exact hclosing ['n', 'u', 'l'] (by decide : isBlank 'l' = false)
  | bool b =>
    cases b
    · exact hclosing ['f', 'a', 'l', 's'] (by decide : isBlank 'e' = false)
    · exact hclosing ['t', 'r', 'u'] (by decide : isBlank 'e' = false)
  | @int n hn =>
    by_cases hneg : n.toInt < 0
    · have hopposite := Number.toInt_of_toInt64? (toInt64?_neg hn)
      rw [chars_negative hn hneg, chars_nonneg (n := -n) (by omega)]
      exact hdigits _ ['-']
    · rw [chars_nonneg (by omega)]
      exact hdigits _ []
  | string => exact hclosing _ (by decide)
  | ident h => exact hname h []
  | binding h => exact hname h ['#']
  | property _ _ h =>
    rw [chars, List.append_cons]
    exact hname h _
  | index | call | binary | conditional | list | map => exact hclosing _ (by decide)
  | not _ ih => exact hcons (by decide) ih
  | neg _ _ ih => exact hcons (by decide) ih

end SqlTemplate.Expr
