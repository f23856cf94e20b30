import SqlTemplate.Proofs.Expr.Legible
import SqlTemplate.Proofs.Expr.Levels

/-! # Expressions read back from their text

The text of an expression has parentheses around every operation of two or three operands, so that reading it goes down to a unary
operator or a primary at once. What stands after an expression ends it at every level: a gap and an operator, or a character that
closes it.
-/

namespace SqlTemplate.Expr

open Text

variable {e : Expr} {s rest : List Char} {limit : Nat}

/-! ## What stops an expression -/

/-- A text after an operand that does not go on with it. -/
def Apart (rest : List Char) : Prop := ∀ c ∈ rest.head?, isNameChar c = false ∧ c ≠ '.' ∧ c ≠ '(' ∧ c ≠ '['

theorem Apart.detached (h : Apart rest) : Detached rest := by
  cases rest with
  | nil => exact ⟨rfl, by simp, rfl⟩
  | cons c rest =>
    obtain ⟨hname, hpoint, hparen, -⟩ := h c rfl
    refine ⟨hname, by simpa using hparen, ?_⟩
    unfold takeFraction
    split
    · rename_i heq
      cases heq
      exact absurd rfl hpoint
    · rfl

theorem Apart.steps (h : Apart rest) (sub : Parser Expr) (fuel : Nat) (e : Expr) : steps sub fuel e rest = .done e rest := by
  have hmember : member rest = .mismatch rest := by
    refine Reader.bind_mismatch ?_ _
    cases rest with
    | nil => rfl
    | cons c rest => exact char_mismatch (h c rfl).2.1 rest
  have hindex : bracketed '[' ']' sub rest = .mismatch rest := by
    refine Reader.bind_mismatch ?_ _
    cases rest with
    | nil => rfl
    | cons c rest => exact char_mismatch (h c rfl).2.2.2 rest
  cases fuel with
  | zero => rfl
  | succ fuel => simp only [Expr.steps, step?, hmember, hindex]

/-- The text after an operand: a gap before an operator, or a character that closes it. -/
def Stops (rest : List Char) : Prop := ∀ c ∈ rest.head?, c ∈ [' ', ')', ']', '}', ',', ':']

theorem Stops.apart (h : Stops rest) : Apart rest := by
  intro c hc
  have hmem := h c hc
  simp only [List.mem_cons, List.not_mem_nil, or_false] at hmem
  rcases hmem with rfl | rfl | rfl | rfl | rfl | rfl <;> decide

theorem stops_closing {c : Char} (h : c ∈ [')', ']', '}', ',', ':']) (rest : List Char) : Stops (c :: rest) := by
  simpa [Stops] using Or.inr h

theorem closed_closing {c : Char} (h : c ∈ [')', ']', '}', ',', ':']) (rest : List Char) : Closed (c :: rest) := by
  have hgap : ∀ d ∈ [')', ']', '}', ',', ':'], isGap d = false := by simp [isGap]
  rw [Closed, skipGaps_self (by simpa using hgap c h)]
  simpa using h

/-! ## Unary operators -/

theorem unaries_none {operand : Parser Expr} (h : takeUnary? s = none) : unaries operand s = operand s := by
  rw [unaries]
  split
  · rename_i heq
    rw [h] at heq
    cases heq
  · rfl

theorem unaries_some {operand : Parser Expr} {op : UnaryOp} {after : List Char} (h : takeUnary? s = some (op, after))
    (hread : unaries operand (skipGaps after) = .done e rest) : unaries operand s = .done (applyUnary op e) rest := by
  rw [unaries]
  split
  · rename_i heq
    rw [h] at heq
    cases heq
    rw [hread]
  · rename_i heq
    rw [h] at heq
    cases heq

/-- The text of the expression is read up to what stops it. -/
def Reads (e : Expr) : Prop :=
  ∀ limit rest, e.chars.length ≤ limit → Stops rest → unaries (postfixed (nested limit)) (e.chars ++ rest) = .done e rest

/-- The text of the expression is read as a primary with steps, and more steps may follow. -/
def ReadsSteps (e : Expr) : Prop :=
  ∀ limit rest, e.chars.length ≤ limit → Detached rest → takeUnary? (e.chars ++ rest) = none ∧
    ∃ fuel, rest.length ≤ fuel ∧ postfixed (nested limit) (e.chars ++ rest) = steps (nested limit) fuel e rest

theorem ReadsSteps.reads (h : ReadsSteps e) : Reads e := by
  intro limit rest hlimit hrest
  obtain ⟨hunary, fuel, -, hread⟩ := h limit rest hlimit hrest.apart.detached
  rw [unaries_none hunary, hread, hrest.apart.steps]

theorem readsSteps_of_primary (hunary : ∀ rest, Detached rest → takeUnary? (e.chars ++ rest) = none)
    (hread : ∀ limit rest, e.chars.length ≤ limit → Detached rest → primary (nested limit) (e.chars ++ rest) = .done e rest) :
    ReadsSteps e := by
  intro limit rest hlimit hrest
  refine ⟨hunary rest hrest, rest.length, le_rfl, ?_⟩
  rw [postfixed, hread limit rest hlimit hrest]

theorem ReadsSteps.step {target : Expr} (h : ReadsSteps target) (added : List Char) (hchars : e.chars = target.chars ++ added)
    (hadded : added ≠ []) (hdetached : ∀ rest, Detached (added ++ rest))
    (hstep : ∀ limit rest, e.chars.length ≤ limit → Detached rest → step? (nested limit) target (added ++ rest) = some (e, rest)) :
    ReadsSteps e := by
  intro limit rest hlimit hrest
  have hlength : target.chars.length ≤ limit := by
    rw [hchars, List.length_append] at hlimit
    omega
  obtain ⟨hunary, fuel, hfuel, hread⟩ := h limit (added ++ rest) hlength (hdetached rest)
  have hpos := List.length_pos_iff.2 hadded
  rw [List.length_append] at hfuel
  obtain ⟨fuel, rfl⟩ : ∃ n, fuel = n + 1 := Nat.exists_eq_add_of_le' (by omega)
  rw [hchars, List.append_assoc]
  refine ⟨hunary, fuel, by omega, ?_⟩
  rw [hread, steps]
  simp only [hstep limit rest hlimit hrest]

/-! ## Inside brackets -/

theorem Reads.nested (h : Reads e) (hlimit : e.chars.length < limit) (hstops : Stops rest) (hclosed : Closed rest) :
    nested limit (e.chars ++ rest) = .done e rest := by
  obtain ⟨limit, rfl⟩ : ∃ n, limit = n + 1 := Nat.exists_eq_add_of_le' (by omega)
  have hread := binaries_stops (h limit rest (by omega) hstops) hclosed.takeOperator?
  rw [Expr.nested, conditionalWith, hread]
  dsimp only
  split
  · rename_i after hafter
    have hmark := hclosed '?' (by rw [hafter]; rfl)
    simp at hmark
  · rfl

theorem skipGaps_chars (h : Legible e) (rest : List Char) : skipGaps (e.chars ++ rest) = e.chars ++ rest := by
  obtain ⟨c, cs, hchars, hc, -⟩ := h.head
  refine skipGaps_self ?_
  rw [hchars]
  rintro d ⟨⟩
  by_contra hgap
  rw [isBlank_of_isGap c (Bool.of_not_eq_false hgap)] at hc
  cases hc

theorem Reads.spaced (h : Reads e) (hlegible : Legible e) (hlimit : e.chars.length < limit) {c : Char}
    (hc : c ∈ [')', ']', '}', ',', ':']) (rest : List Char) :
    Reader.spaced (Expr.nested limit) (e.chars ++ c :: rest) = .done e (c :: rest) := by
  have hread := h.nested hlimit (stops_closing hc rest) (closed_closing hc rest)
  have hgap : ∀ d ∈ [')', ']', '}', ',', ':'], isGap d = false := by simp [isGap]
  have hself : skipGaps (c :: rest) = c :: rest := skipGaps_self (by simpa using hgap c hc)
  rw [← skipGaps_chars hlegible] at hread
  rw [Reader.spaced_done hread, hself]

theorem bracketed_done (h : Reads e) (hlegible : Legible e) (hlimit : e.chars.length < limit) {opening closing : Char}
    (hclosing : closing ∈ [')', ']', '}', ',', ':']) (rest : List Char) :
    bracketed opening closing (nested limit) (opening :: (e.chars ++ closing :: rest)) = .done e rest := by
  rw [bracketed, Reader.bind_done (char_done opening _), Reader.bind_done (h.spaced hlegible hlimit hclosing rest),
    Reader.bind_done (char_done closing _)]
  rfl

/-! ## Items -/

/-- Without a first operand there is nothing for an operator to join. -/
theorem binaries_undone {operand : Parser Expr} (h : ∀ e rest, operand s ≠ .done e rest) (ls : List (List Operator)) :
    binaries ls operand s = operand s := by
  induction ls with
  | nil => rfl
  | cons operators ls ih =>
    rw [binaries, level, ih]
    cases hs : operand s with
    | done e rest => exact absurd hs (h e rest)
    | mismatch e => rfl
    | failure e => rfl

/-- Where a list may end there is no item. -/
theorem nested_closing {closing : Char} (hclosing : closing ∈ [')', '}']) (hlimit : 0 < limit) (rest : List Char) :
    nested limit (closing :: rest) = .mismatch (closing :: rest) := by
  obtain ⟨limit, rfl⟩ : ∃ n, limit = n + 1 := Nat.exists_eq_add_of_le' hlimit
  have hunary : takeUnary? (closing :: rest) = none := by
    simp only [List.mem_cons, List.not_mem_nil, or_false] at hclosing
    rcases hclosing with rfl | rfl <;> rfl
  have hprimary : primary (nested limit) (closing :: rest) = .mismatch (closing :: rest) := by
    simp only [List.mem_cons, List.not_mem_nil, or_false] at hclosing
    rcases hclosing with rfl | rfl <;> rfl
  have hread : unaries (postfixed (nested limit)) (closing :: rest) = .mismatch (closing :: rest) := by
    rw [unaries_none hunary, postfixed, hprimary]
  have hlevels : binaries levels (unaries (postfixed (nested limit))) (closing :: rest) = .mismatch (closing :: rest) :=
    (binaries_undone (fun _ _ => by simp [hread]) levels).trans hread
  rw [nested, conditionalWith, hlevels]

theorem spaced_closing {closing : Char} (hclosing : closing ∈ [')', '}']) (hlimit : 0 < limit) (rest : List Char) :
    Reader.spaced (nested limit) (closing :: rest) = .mismatch (closing :: rest) := by
  have hgap : ∀ c ∈ [')', '}'], isGap c = false := by simp [isGap]
  have hself : skipGaps (closing :: rest) = closing :: rest := skipGaps_self (by simpa using hgap closing hclosing)
  rw [Reader.spaced_mismatch (e := closing :: rest)]
  rw [hself, nested_closing hclosing hlimit]

section Lists

variable (closing : Char) (hclosing : closing ∈ [')', '}']) (hlimit : 0 < limit)

include hclosing hlimit

theorem items_done {items : List Expr} (hread : ∀ item ∈ items, Reads item) (hlegible : ∀ item ∈ items, Legible item)
    (hlength : ([',', ' '].intercalate (itemChars items)).length < limit) (rest : List Char) :
    Reader.itemList (Reader.spaced (nested limit)) ([',', ' '].intercalate (itemChars items) ++ closing :: rest) =
      .done items (closing :: rest) := by
  have hends : ∀ c ∈ [')', '}'], c ∈ [')', ']', '}', ',', ':'] ∧ c ≠ ',' := by simp
  obtain ⟨hends, hcomma⟩ := hends closing hclosing
  rw [itemChars_eq] at hlength ⊢
  refine Reader.itemList_done (fun _ => rfl) (fun item hitem next hnext => ?_) (by simpa using hcomma)
    (spaced_closing hclosing hlimit rest)
  have hitemLength := Reader.length_le_intercalate chars hitem
  obtain ⟨c, next, rfl, hc⟩ : ∃ c more, next = c :: more ∧ c ∈ [')', ']', '}', ',', ':'] := by
    rcases hnext with hnext | rfl
    · obtain ⟨more, rfl⟩ := List.head?_eq_some_iff.1 hnext
      exact ⟨',', more, rfl, by decide⟩
    · exact ⟨closing, rest, rfl, hends⟩
  exact (hread item hitem).spaced (hlegible item hitem) (by omega) hc next

theorem entries_done {entries : List (Expr × Expr)} (hkeys : ∀ entry ∈ entries, Reads entry.1)
    (hvalues : ∀ entry ∈ entries, Reads entry.2) (hlegible : ∀ entry ∈ entries, Legible entry.1 ∧ Legible entry.2)
    (hlength : ([',', ' '].intercalate (entryChars entries)).length < limit) (rest : List Char) :
    Reader.itemList (entry (nested limit)) ([',', ' '].intercalate (entryChars entries) ++ closing :: rest) =
      .done entries (closing :: rest) := by
  have hends : ∀ c ∈ [')', '}'], c ∈ [')', ']', '}', ',', ':'] ∧ c ≠ ',' := by simp
  obtain ⟨hends, hcomma⟩ := hends closing hclosing
  have hnone : entry (nested limit) (closing :: rest) = .mismatch (closing :: rest) :=
    Reader.bind_mismatch (spaced_closing hclosing hlimit rest) _
  rw [entryChars_eq] at hlength ⊢
  refine Reader.itemList_done (fun _ => rfl) (fun entry hentry next hnext => ?_) (by simpa using hcomma) hnone
  have hentryLength := Reader.length_le_intercalate
    (fun entry : Expr × Expr => entry.1.chars ++ [':', ' '] ++ entry.2.chars) hentry
  simp only [List.length_append] at hentryLength
  obtain ⟨hkey, hvalue⟩ := hlegible _ hentry
  obtain ⟨c, next, rfl, hc⟩ : ∃ c more, next = c :: more ∧ c ∈ [')', ']', '}', ',', ':'] := by
    rcases hnext with hnext | rfl
    · obtain ⟨more, rfl⟩ := List.head?_eq_some_iff.1 hnext
      exact ⟨',', more, rfl, by decide⟩
    · exact ⟨closing, rest, rfl, hends⟩
  have hread : Reader.spaced (nested limit) (entry.1.chars ++ ':' :: ' ' :: (entry.2.chars ++ c :: next)) =
      .done entry.1 (':' :: ' ' :: (entry.2.chars ++ c :: next)) :=
    (hkeys _ hentry).spaced hkey (by omega) (by decide) _
  have hread' : Reader.spaced (nested limit) (' ' :: (entry.2.chars ++ c :: next)) = .done entry.2 (c :: next) :=
    (hvalues _ hentry).spaced hvalue (by omega) hc next
  rw [List.append_assoc, List.append_assoc, Expr.entry]
  change (Reader.spaced (nested limit) >>= _) (entry.1.chars ++ ':' :: ' ' :: (entry.2.chars ++ c :: next)) = _
  rw [Reader.bind_done hread, Reader.bind_done (char_done ':' _), Reader.bind_done hread']
  rfl

end Lists

theorem enclosed_done {α β : Type} {items : Parser α} {a : α} {text : List Char} (opening : Char) {closing : Char}
    (hclosing : closing ∈ [')', '}']) (hread : items (text ++ closing :: rest) = .done a (closing :: rest)) (f : α → β) :
    (do
      char opening
      let a ← items
      Reader.gaps
      char closing
      pure (f a) : Parser β) (opening :: (text ++ closing :: rest)) = .done (f a) rest := by
  have hgap : ∀ c ∈ [')', '}'], isGap c = false := by simp [isGap]
  have hgaps : (Reader.gaps : Parser Unit) (closing :: rest) = .done () (closing :: rest) := by
    rw [Reader.gaps, skipGaps_self (by simpa using hgap closing hclosing)]
  rw [Reader.bind_done (char_done opening _), Reader.bind_done hread, Reader.bind_done hgaps, Reader.bind_done (char_done closing _)]
  rfl

/-! ## Primaries -/

theorem readsSteps_int {n : Int64} (h : 0 ≤ n.toInt) : ReadsSteps (.literal (.int n)) := by
  have hword : Number.toInt64? (n.toInt.natAbs : Int) = some n := by
    rw [Int.natAbs_of_nonneg h, Number.toInt64?_toInt]
  refine readsSteps_of_primary (fun rest _ => ?_) fun limit rest _ hrest => ?_
  · obtain ⟨c, cs, hdigits, hc⟩ := exists_toDigits n.toInt.natAbs
    rw [chars_nonneg h, hdigits]
    exact takeUnary?_digit hc _
  · rw [chars_nonneg h, primary, Reader.orElse_done (number_toDigits hword hrest)]

theorem skipGaps_toDigits (n : Nat) (rest : List Char) : skipGaps (Nat.toDigits 10 n ++ rest) = Nat.toDigits 10 n ++ rest := by
  obtain ⟨c, cs, hdigits, hc⟩ := exists_toDigits n
  refine skipGaps_self ?_
  rw [hdigits]
  rintro d ⟨⟩
  exact isGap_of_isNameChar (isNameChar_of_isDigit hc)

theorem readsSteps_string {s : String} (h : '\\' ∉ s.toList) : ReadsSteps (.literal (.string s)) := by
  refine readsSteps_of_primary (fun _ _ => rfl) fun limit rest _ _ => ?_
  have hchars : chars (.literal (.string s)) ++ rest = '\'' :: (quoteChars s.toList ++ '\'' :: rest) := by
    rw [chars, List.cons_append, List.cons_append, List.append_assoc]
    rfl
  have hnumber : number ('\'' :: (quoteChars s.toList ++ '\'' :: rest)) = .mismatch _ := rfl
  have hread : string ('\'' :: (quoteChars s.toList ++ '\'' :: rest)) = .done (.literal (.string s)) rest := by
    rw [string, if_pos (by decide), readQuoted?_quoteChars h]
    dsimp only
    rw [String.ofList_toList]
  rw [hchars, primary, Reader.orElse_mismatch hnumber, Reader.orElse_done hread]

theorem readsSteps_keyword (word : List Char) {v : Value} (hword : (word, v) ∈ keywords) (hchars : chars (.literal v) = word) :
    ReadsSteps (.literal v) := by
  refine readsSteps_of_primary (fun rest hrest => ?_) fun limit rest _ hrest => ?_
  · rw [hchars]
    exact (primary_keyword hword hrest.name (nested 0)).1
  · rw [hchars]
    exact (primary_keyword hword hrest.name _).2

theorem readsSteps_ident {name : String} (hname : IsName name) (hfree : name ∉ reserved) : ReadsSteps (.ident name) := by
  refine readsSteps_of_primary (fun rest hrest => ?_) fun limit rest _ hrest => hname.primary hfree hrest _
  exact hname.takeUnary? (fun heq => hfree (by rw [heq]; decide)) hrest

theorem readsSteps_binding {name : String} (hname : IsName name) : ReadsSteps (.binding name) := by
  refine readsSteps_of_primary (fun _ _ => rfl) fun limit rest _ hrest => ?_
  have hread : bindingName ('#' :: (name.toList ++ rest)) = .done (.binding name) rest := by
    rw [bindingName, Reader.bind_done (char_done '#' _), Reader.bind_done (hname.identifier hrest.name)]
    rfl
  -- A name does not begin with the bracket that would make it a map.
  have hmap : mapLiteral (nested limit) ('#' :: (name.toList ++ rest)) = .mismatch (name.toList ++ rest) := by
    obtain ⟨c, cs, hchars, hstart, -⟩ := hname
    have hne : c ≠ '{' := by
      rintro rfl
      cases hstart
    rw [mapLiteral, Reader.bind_done (char_done '#' _), hchars]
    exact Reader.bind_mismatch (char_mismatch hne _) _
  have hothers : primary (nested limit) ('#' :: (name.toList ++ rest)) =
      (mapLiteral (nested limit) <|> bindingName <|> listLiteral (nested limit) <|> bracketed '(' ')' (nested limit) <|> Expr.name)
        ('#' :: (name.toList ++ rest)) := rfl
  change primary (nested limit) ('#' :: (name.toList ++ rest)) = _
  rw [hothers, Reader.orElse_mismatch hmap, Reader.orElse_done hread]

/-- What stands between parentheses is read by the levels of operators. -/
theorem readsSteps_paren {inner : List Char} (hchars : e.chars = '(' :: (inner ++ [')']))
    (hgap : ∀ rest, skipGaps (inner ++ rest) = inner ++ rest)
    (hread : ∀ limit rest, e.chars.length ≤ limit + 1 → conditionalWith (nested limit) (inner ++ ')' :: rest) = .done e (')' :: rest)) :
    ReadsSteps e := by
  have happend (rest : List Char) : e.chars ++ rest = '(' :: (inner ++ ')' :: rest) := by
    rw [hchars, List.cons_append, List.append_assoc]
    rfl
  refine readsSteps_of_primary (fun rest _ => by rw [happend]; rfl) fun limit rest hlimit _ => ?_
  obtain ⟨limit, rfl⟩ : ∃ n, limit = n + 1 := by
    rw [hchars] at hlimit
    exact Nat.exists_eq_add_of_le' (Nat.le_trans (by simp) hlimit)
  have hinner : Reader.spaced (nested (limit + 1)) (inner ++ ')' :: rest) = .done e (')' :: rest) := by
    have hinner := hread limit rest hlimit
    rw [← hgap] at hinner
    rw [nested, Reader.spaced_done hinner]
    rfl
  have hbracketed : bracketed '(' ')' (nested (limit + 1)) ('(' :: (inner ++ ')' :: rest)) = .done e rest := by
    rw [bracketed, Reader.bind_done (char_done '(' _), Reader.bind_done hinner, Reader.bind_done (char_done ')' _)]
    rfl
  have hothers : primary (nested (limit + 1)) ('(' :: (inner ++ ')' :: rest)) =
      (bracketed '(' ')' (nested (limit + 1)) <|> Expr.name) ('(' :: (inner ++ ')' :: rest)) := rfl
  rw [happend, hothers, Reader.orElse_done hbracketed]

theorem readsSteps_binary {left right : Expr} (op : BinaryOp) (hleft : Reads left) (hright : Reads right) (hl : Legible left)
    (hr : Legible right) : ReadsSteps (.binary left op right) := by
  have hchars : (binary left op right).chars =
      '(' :: ((left.chars ++ ' ' :: (op.text.toList ++ ' ' :: right.chars)) ++ [')']) := by
    simp [chars]
  refine readsSteps_paren hchars (fun rest => ?_) fun limit rest hlimit => ?_
  · rw [List.append_assoc]
    exact skipGaps_chars hl _
  · rw [hchars] at hlimit
    simp only [List.length_cons, List.length_append] at hlimit
    have hclosing : ')' ∈ [')', ']', '}', ',', ':'] := by decide
    have hclosed := closed_closing hclosing rest
    have hleft' := hleft limit (' ' :: (op.text.toList ++ ' ' :: (right.chars ++ ')' :: rest))) (by omega) (by simp [Stops])
    have hright' := hright limit (')' :: rest) (by omega) (stops_closing hclosing rest)
    rw [← skipGaps_chars hr] at hright'
    have hread := binaries_binary (right.chars ++ ')' :: rest) hleft' hright' hclosed
    rw [List.append_assoc, List.cons_append, List.append_assoc, List.cons_append, conditionalWith, hread]
    rfl

theorem branches_done {yes no : Expr} (test : Expr) (hyes : Reads yes) (hno : Reads no) (hy : Legible yes) (hn : Legible no)
    (hyesLimit : yes.chars.length < limit) (hnoLimit : no.chars.length < limit) (hstops : Stops rest) (hclosed : Closed rest) :
    branches (nested limit) test (' ' :: (yes.chars ++ ' ' :: ':' :: ' ' :: (no.chars ++ rest))) =
      .done (.conditional test yes no) rest := by
  have hyesClosed : Closed (' ' :: ':' :: ' ' :: (no.chars ++ rest)) := by
    rintro c ⟨⟩
    decide
  have hyesRead := hyes.nested hyesLimit (by simp [Stops]) hyesClosed
  have hnoRead := hno.nested hnoLimit hstops hclosed
  rw [← skipGaps_chars hy] at hyesRead
  rw [← skipGaps_chars hn] at hnoRead
  unfold branches
  rw [Reader.bind_done (Reader.gaps_done _), skipGaps_space, Reader.bind_done hyesRead, Reader.bind_done (Reader.gaps_done _)]
  change (char ':' >>= _) (':' :: ' ' :: (no.chars ++ rest)) = _
  rw [Reader.bind_done (char_done ':' _), Reader.bind_done (Reader.gaps_done _), skipGaps_space, Reader.bind_done hnoRead]
  rfl

theorem readsSteps_conditional {test yes no : Expr} (htest : Reads test) (hyes : Reads yes) (hno : Reads no) (ht : Legible test)
    (hy : Legible yes) (hn : Legible no) : ReadsSteps (.conditional test yes no) := by
  have hchars : (conditional test yes no).chars =
      '(' :: ((test.chars ++ ' ' :: '?' :: ' ' :: (yes.chars ++ ' ' :: ':' :: ' ' :: no.chars)) ++ [')']) := by
    simp [chars]
  refine readsSteps_paren hchars (fun rest => ?_) fun limit rest hlimit => ?_
  · rw [List.append_assoc]
    exact skipGaps_chars ht _
  · rw [hchars] at hlimit
    simp only [List.length_cons, List.length_append] at hlimit
    have hclosing : ')' ∈ [')', ']', '}', ',', ':'] := by decide
    let afterTest := ' ' :: '?' :: ' ' :: (yes.chars ++ ' ' :: ':' :: ' ' :: (no.chars ++ ')' :: rest))
    have hmark : ∀ l ∈ levels, takeOperator? l (skipGaps afterTest) = none := by
      have hall : (levels.all fun l => (takeOperator? l (skipGaps afterTest)).isNone) = true := rfl
      exact fun l hl => Option.isNone_iff_eq_none.1 (List.all_eq_true.1 hall l hl)
    have htestRead := binaries_stops (htest limit afterTest (by omega) (by simp [Stops, afterTest])) hmark
    rw [List.append_assoc, List.cons_append, List.cons_append, List.cons_append, List.append_assoc, List.cons_append,
      List.cons_append, List.cons_append, conditionalWith, htestRead]
    exact branches_done test hyes hno hy hn (by omega) (by omega) (stops_closing hclosing rest) (closed_closing hclosing rest)

theorem readsSteps_list {items : List Expr} (hread : ∀ item ∈ items, Reads item) (hlegible : ∀ item ∈ items, Legible item) :
    ReadsSteps (.list items) := by
  have happend (rest : List Char) :
      (list items).chars ++ rest = '{' :: ([',', ' '].intercalate (itemChars items) ++ '}' :: rest) := by
    simp [chars]
  refine readsSteps_of_primary (fun rest _ => by rw [happend]; rfl) fun limit rest hlimit _ => ?_
  have hlength : ([',', ' '].intercalate (itemChars items)).length < limit := by
    simp only [chars, List.length_cons, List.length_append] at hlimit
    omega
  have hitems := items_done '}' (by decide) (by omega) hread hlegible hlength rest
  have hlist : listLiteral (nested limit) ('{' :: ([',', ' '].intercalate (itemChars items) ++ '}' :: rest)) =
      .done (.list items) rest := enclosed_done '{' (by decide) hitems Expr.list
  have hothers (s : List Char) : primary (nested limit) ('{' :: s) =
      (listLiteral (nested limit) <|> bracketed '(' ')' (nested limit) <|> Expr.name) ('{' :: s) := rfl
  rw [happend, hothers, Reader.orElse_done hlist]

theorem readsSteps_map {entries : List (Expr × Expr)} (hkeys : ∀ entry ∈ entries, Reads entry.1)
    (hvalues : ∀ entry ∈ entries, Reads entry.2) (hlegible : ∀ entry ∈ entries, Legible entry.1 ∧ Legible entry.2) :
    ReadsSteps (.map entries) := by
  have happend (rest : List Char) :
      (map entries).chars ++ rest = '#' :: '{' :: ([',', ' '].intercalate (entryChars entries) ++ '}' :: rest) := by
    simp [chars]
  refine readsSteps_of_primary (fun rest _ => by rw [happend]; rfl) fun limit rest hlimit _ => ?_
  have hlength : ([',', ' '].intercalate (entryChars entries)).length < limit := by
    simp only [chars, List.length_cons, List.length_append] at hlimit
    omega
  have hentries := entries_done '}' (by decide) (by omega) hkeys hvalues hlegible hlength rest
  have hmap : mapLiteral (nested limit) ('#' :: '{' :: ([',', ' '].intercalate (entryChars entries) ++ '}' :: rest)) =
      .done (.map entries) rest := by
    rw [mapLiteral, Reader.bind_done (char_done '#' _)]
    exact enclosed_done '{' (by decide) hentries Expr.map
  have hothers (s : List Char) : primary (nested limit) ('#' :: '{' :: s) =
      (mapLiteral (nested limit) <|> bindingName <|> listLiteral (nested limit) <|> bracketed '(' ')' (nested limit) <|> Expr.name)
        ('#' :: '{' :: s) := rfl
  rw [happend, hothers, Reader.orElse_done hmap]

/-! ## Steps -/

theorem member_done {name : String} (hname : IsName name) (hrest : startsWithName rest = false) :
    member ('.' :: (name.toList ++ rest)) = .done name rest := by
  rw [member, Reader.bind_done (char_done '.' _), hname.identifier hrest]

theorem readsSteps_property {target : Expr} {name : String} (h : ReadsSteps target) (hname : IsName name) :
    ReadsSteps (.property target name) := by
  refine h.step ('.' :: name.toList) rfl (by simp) hname.detached fun limit rest _ hrest => ?_
  have harguments : arguments (nested limit) rest = .mismatch rest := by
    refine Reader.bind_mismatch ?_ _
    cases rest with
    | nil => rfl
    | cons c rest => exact char_mismatch (fun heq => hrest.paren (by rw [heq]; rfl)) rest
  rw [List.cons_append, step?, member_done hname hrest.name]
  simp only [harguments]

theorem readsSteps_call {target : Expr} {method : String} {args : List Expr} (h : ReadsSteps target) (hmethod : IsName method)
    (hread : ∀ arg ∈ args, Reads arg) (hlegible : ∀ arg ∈ args, Legible arg) : ReadsSteps (.call target method args) := by
  let added := '.' :: (method.toList ++ '(' :: ([',', ' '].intercalate (itemChars args) ++ [')']))
  have hchars : (call target method args).chars = target.chars ++ added := by
    simp [chars, added]
  have happend (rest : List Char) :
      added ++ rest = '.' :: (method.toList ++ '(' :: ([',', ' '].intercalate (itemChars args) ++ ')' :: rest)) := by
    simp [added]
  refine h.step added hchars (by simp [added]) (fun rest => ?_) fun limit rest hlimit _ => ?_
  · rw [happend]
    exact hmethod.detached _
  · have hlength : ([',', ' '].intercalate (itemChars args)).length < limit := by
      rw [hchars] at hlimit
      simp only [added, List.length_append, List.length_cons] at hlimit
      omega
    have hitems := items_done ')' (by decide) (by omega) hread hlegible hlength rest
    have harguments : arguments (nested limit) ('(' :: ([',', ' '].intercalate (itemChars args) ++ ')' :: rest)) = .done args rest :=
      enclosed_done '(' (by decide) hitems id
    rw [happend, step?, member_done hmethod rfl]
    simp only [harguments]

theorem readsSteps_index {target key : Expr} (h : ReadsSteps target) (hread : Reads key) (hlegible : Legible key) :
    ReadsSteps (.index target key) := by
  have hchars : (index target key).chars = target.chars ++ '[' :: (key.chars ++ [']']) := by
    simp [chars]
  refine h.step _ hchars (by simp) (fun rest => ⟨rfl, by simp, rfl⟩) fun limit rest hlimit _ => ?_
  rw [hchars] at hlimit
  simp only [List.length_append, List.length_cons] at hlimit
  have hkey : bracketed '[' ']' (nested limit) ('[' :: (key.chars ++ ']' :: rest)) = .done key rest :=
    bracketed_done hread hlegible (by omega) (by decide) rest
  have hmember (s : List Char) : member ('[' :: s) = .mismatch ('[' :: s) := rfl
  rw [List.cons_append, List.append_assoc, step?, hmember]
  simp only [List.singleton_append, hkey]

/-! ## Unary operations -/

theorem reads_not {operand : Expr} (h : Reads operand) (hlegible : Legible operand) : Reads (.unary .not operand) := by
  intro limit rest hlimit hrest
  have hread := h limit rest (by simp only [chars, List.length_cons] at hlimit; omega) hrest
  have htake : takeUnary? ('!' :: (operand.chars ++ rest)) = some (.not, operand.chars ++ rest) := by
    obtain ⟨c, cs, hchars, -, hne⟩ := hlegible.head
    rw [takeUnary?, hchars]
    exact if_neg (by simpa using hne)
  rw [← skipGaps_chars hlegible] at hread
  exact unaries_some htake hread

/-- A minus sign before anything but a number is an operator. -/
theorem reads_neg {operand : Expr} (h : Reads operand) (hlegible : Legible operand) (hint : ∀ n, operand ≠ .literal (.int n)) :
    Reads (.unary .neg operand) := by
  intro limit rest hlimit hrest
  have hread := h limit rest (by simp only [chars, List.length_cons] at hlimit; omega) hrest
  have happly : applyUnary .neg operand = .unary .neg operand := by
    cases hlegible with
    | @int n hn => exact absurd rfl (hint n)
    | _ => rfl
  rw [← skipGaps_chars hlegible] at hread
  have hneg := unaries_some (s := '-' :: (operand.chars ++ rest)) rfl hread
  rw [happly] at hneg
  exact hneg

theorem reads_int {n : Int64} (hn : n ≠ Int64.minValue) : Reads (.literal (.int n)) := by
  by_cases hneg : n.toInt < 0
  · intro limit rest hlimit hrest
    have hopposite := Number.toInt_of_toInt64? (toInt64?_neg hn)
    have hlegible : Legible (.literal (.int (-n))) := by
      refine .int fun heq => ?_
      rw [heq, Int64.toInt_minValue] at hopposite
      omega
    have hchars := chars_negative hn hneg
    have hread := (readsSteps_int (n := -n) (by omega)).reads limit rest (by rw [hchars] at hlimit; simp at hlimit; omega) hrest
    rw [← skipGaps_chars hlegible] at hread
    have happly : applyUnary .neg (.literal (.int (-n))) = .literal (.int n) := by
      rw [applyUnary, Int64.neg_neg]
    rw [hchars, ← happly]
    exact unaries_some (s := '-' :: (chars (.literal (.int (-n))) ++ rest)) rfl hread
  · exact (readsSteps_int (by omega)).reads

/-! ## Every expression -/

theorem Legible.reads (h : Legible e) : Reads e ∧ (e.takesSteps = true → ReadsSteps e) := by
  have hboth {e : Expr} (h : ReadsSteps e) : Reads e ∧ (e.takesSteps = true → ReadsSteps e) := ⟨h.reads, fun _ => h⟩
  induction h with
  | null => exact hboth (readsSteps_keyword ['n', 'u', 'l', 'l'] (by simp [keywords]) rfl)
  | bool b =>
    cases b
    · exact hboth (readsSteps_keyword ['f', 'a', 'l', 's', 'e'] (by simp [keywords]) rfl)
    · exact hboth (readsSteps_keyword ['t', 'r', 'u', 'e'] (by simp [keywords]) rfl)
  | int hn => exact ⟨reads_int hn, fun hsteps => readsSteps_int (by simpa [takesSteps] using hsteps)⟩
  | string hs => exact hboth (readsSteps_string hs)
  | ident hname hfree => exact hboth (readsSteps_ident hname hfree)
  | binding hname => exact hboth (readsSteps_binding hname)
  | property _ hsteps hname ih => exact hboth (readsSteps_property (ih.2 hsteps) hname)
  | index _ hsteps hkey ih ihkey => exact hboth (readsSteps_index (ih.2 hsteps) ihkey.1 hkey)
  | call _ hsteps hmethod hargs ih ihargs =>
    exact hboth (readsSteps_call (ih.2 hsteps) hmethod (fun arg harg => (ihargs arg harg).1) hargs)
  | not hoperand ih => exact ⟨reads_not ih.1 hoperand, fun hsteps => by cases hsteps⟩
  | neg hoperand hint ih => exact ⟨reads_neg ih.1 hoperand hint, fun hsteps => by cases hsteps⟩
  | binary op hleft hright ihleft ihright => exact hboth (readsSteps_binary op ihleft.1 ihright.1 hleft hright)
  | conditional htest hyes hno ihtest ihyes ihno =>
    exact hboth (readsSteps_conditional ihtest.1 ihyes.1 ihno.1 htest hyes hno)
  | list hitems ih => exact hboth (readsSteps_list (fun item hitem => (ih item hitem).1) hitems)
  | map hkeys hvalues ihkeys ihvalues =>
    exact hboth (readsSteps_map (fun entry hentry => (ihkeys entry hentry).1) (fun entry hentry => (ihvalues entry hentry).1)
      fun entry hentry => ⟨hkeys entry hentry, hvalues entry hentry⟩)

/-- The text of a legible expression is read as that expression. -/
theorem parse_text (h : Legible e) : parse e.text = .ok e := by
  obtain ⟨c, cs, hchars, hc, -⟩ := h.head
  have htrim : trim e.chars = e.chars := by
    rw [trim, trimStart_self (by simpa [hchars] using hc), trimEnd_self h.last]
  have hread : nested (e.chars.length + 1) e.chars = .done e [] := by
    have hnested : nested (e.chars.length + 1) (e.chars ++ []) = .done e [] :=
      h.reads.1.nested (by omega) (by simp [Stops]) (by simp [Closed, skipGaps])
    rwa [List.append_nil] at hnested
  have hempty : e.chars.isEmpty = false := by rw [hchars]; rfl
  rw [parse, text, String.toList_ofList, htrim]
  simp only [hempty, readAll, hread]
  rfl

/-- A condition with a word operator, a quote, a negative number, a step and a negation. -/
theorem parse_text_conditional :
    ∃ e : Expr, e.text = "((notes not in \x7b'it\\'s', -5\x7d) ? #row.size() : !nullable.b)" ∧ Legible e ∧ parse e.text = .ok e := by
  let items : List Expr := [.literal (.string "it's"), .literal (.int (-5))]
  let e : Expr := .conditional (.binary (.ident "notes") .notIn (.list items)) (.call (.binding "row") "size" [])
    (.unary .not (.property (.ident "nullable") "b"))
  have hitems : ∀ item ∈ items, Legible item := by
    intro item hitem
    simp only [items, List.mem_cons, List.not_mem_nil, or_false] at hitem
    rcases hitem with rfl | rfl
    · exact .string (by decide)
    · exact .int (by decide)
  have hnotes : IsName "notes" := ⟨'n', ['o', 't', 'e', 's'], by decide, by decide, List.all_eq_true.1 (by decide)⟩
  have hrow : IsName "row" := ⟨'r', ['o', 'w'], by decide, by decide, List.all_eq_true.1 (by decide)⟩
  have hsize : IsName "size" := ⟨'s', ['i', 'z', 'e'], by decide, by decide, List.all_eq_true.1 (by decide)⟩
  have hnullable : IsName "nullable" := ⟨'n', ['u', 'l', 'l', 'a', 'b', 'l', 'e'], by decide, by decide, List.all_eq_true.1 (by decide)⟩
  have hb : IsName "b" := ⟨'b', [], by decide, by decide, List.all_eq_true.1 (by decide)⟩
  have hlegible : Legible e := by
    refine .conditional (.binary .notIn (.ident hnotes (by decide)) (.list hitems)) ?_ ?_
    · exact .call (.binding hrow) rfl hsize (by simp)
    · exact .not (.property (.ident hnullable (by decide)) rfl hb)
  exact ⟨e, by decide, hlegible, parse_text hlegible⟩

end SqlTemplate.Expr
