import SqlTemplate.Proofs.Computation
import SqlTemplate.Proofs.Expr.Legible
import SqlTemplate.Proofs.Value.Exact

/-! # Literals of parsed expressions

A number is read without its sign and negated when a minus sign stands before it. So the least integer of 64 bits, whose opposite they do
not hold, is no literal of an expression that was read, and no such negation overflows.
-/

namespace SqlTemplate.Expr

open Text

mutual

/-- The integers that are literals in the expression. -/
def integers : Expr → List Int64
  | .literal (.int n) => [n]
  | .literal _ | .ident _ | .binding _ => []
  | .property target _ => target.integers
  | .index target key => target.integers ++ key.integers
  | .call target _ args => target.integers ++ itemIntegers args
  | .unary _ operand => operand.integers
  | .binary left _ right => left.integers ++ right.integers
  | .conditional test yes no => test.integers ++ yes.integers ++ no.integers
  | .list items => itemIntegers items
  | .map entries => entryIntegers entries

def itemIntegers : List Expr → List Int64
  | [] => []
  | e :: items => e.integers ++ itemIntegers items

def entryIntegers : List (Expr × Expr) → List Int64
  | [] => []
  | (key, e) :: entries => key.integers ++ e.integers ++ entryIntegers entries

end

/-- All integers among the literals are above the least one of 64 bits. -/
def Bounded (e : Expr) : Prop := ∀ n ∈ e.integers, Int64.minValue < n

section Bounded

variable {e target key operand left right test yes no : Expr} {items : List Expr} {entries : List (Expr × Expr)}

theorem bounded_int {n : Int64} : Bounded (.literal (.int n)) ↔ Int64.minValue < n := by simp [Bounded, integers]

theorem bounded_append {p q : List Int64} (hp : ∀ n ∈ p, Int64.minValue < n) (hq : ∀ n ∈ q, Int64.minValue < n) :
    ∀ n ∈ p ++ q, Int64.minValue < n :=
  List.forall_mem_append.2 ⟨hp, hq⟩

theorem bounded_items (h : ∀ e ∈ items, Bounded e) : ∀ n ∈ itemIntegers items, Int64.minValue < n := by
  induction items with
  | nil => simp [itemIntegers]
  | cons e items ih =>
    rw [List.forall_mem_cons] at h
    exact bounded_append h.1 (ih h.2)

theorem bounded_entries (h : ∀ entry ∈ entries, Bounded entry.1 ∧ Bounded entry.2) :
    ∀ n ∈ entryIntegers entries, Int64.minValue < n := by
  induction entries with
  | nil => simp [entryIntegers]
  | cons entry entries ih =>
    rw [List.forall_mem_cons] at h
    exact bounded_append (bounded_append h.1.1 h.1.2) (ih h.2)

/-- Negation of a literal is exact, and the opposite is bounded again. -/
theorem bounded_neg {n : Int64} (h : Int64.minValue < n) : (-n).toInt = -n.toInt ∧ Int64.minValue < -n := by
  have hopposite := Number.toInt_of_toInt64? (toInt64?_neg fun heq => Int64.lt_irrefl (heq ▸ h))
  have hhigh := Int64.toInt_lt n
  rw [Int64.lt_iff_toInt_lt, hopposite, Int64.toInt_minValue]
  exact ⟨rfl, by omega⟩

theorem Bounded.applyUnary (op : UnaryOp) (h : Bounded e) : Bounded (applyUnary op e) := by
  unfold Expr.applyUnary
  split
  · exact bounded_int.2 (bounded_neg (bounded_int.1 h)).2
  · simp [Bounded, integers]
  · exact h

end Bounded

/-! ## Primaries -/

section Readers

open Reader (Yields)

variable {sub operand : Parser Expr} {e test : Expr}

theorem whole_bounded {n : Nat} {w : Int64} (h : Number.toInt64? n = some w) : Bounded (.literal (.int w)) := by
  rw [bounded_int, Int64.lt_iff_toInt_lt, Number.toInt_of_toInt64? h, Int64.toInt_minValue]
  omega

theorem number_bounded : Yields Bounded number := by
  intro s e rest h
  unfold number at h
  dsimp only at h
  split at h
  · cases h
  · split at h
    · cases h
    · split at h
      · split at h
        · rename_i hw
          cases h
          exact whole_bounded hw
        · cases h
      · split at h
        · rename_i hw
          cases h
          exact whole_bounded hw
        · cases h
      · cases h
        simp [Bounded, integers]

theorem string_bounded : Yields Bounded string := by
  intro s e rest h
  unfold string at h
  split at h
  · split at h
    · split at h
      · cases h
        simp [Bounded, integers]
      · cases h
    · cases h
  · cases h

theorem keyword_bounded : Yields Bounded keyword := by
  intro s e rest h
  unfold keyword at h
  split at h
  · rename_i v after hword
    cases h
    obtain ⟨⟨word, w⟩, hmem, hafter⟩ := List.exists_of_findSome?_eq_some hword
    obtain ⟨after', -, hpair⟩ := Option.map_eq_some_iff.1 hafter
    cases hpair
    have hvalues : ∀ entry ∈ keywords, (Expr.literal entry.2).integers = [] := by simp [keywords, integers]
    rw [Bounded, hvalues _ hmem]
    simp
  · cases h

theorem entry_bounded (h : Yields Bounded sub) : Yields (fun entry => Bounded entry.1 ∧ Bounded entry.2) (entry sub) :=
  h.spaced.bind fun _ hkey => (Yields.any _).bind fun _ _ => h.spaced.bind fun _ hvalue => .pure ⟨hkey, hvalue⟩

theorem mapLiteral_bounded (h : Yields Bounded sub) : Yields Bounded (mapLiteral sub) :=
  (Yields.any _).bind fun _ _ => (Yields.any _).bind fun _ _ => (entry_bounded h).itemList.bind fun _ hentries =>
    (Yields.any _).bind fun _ _ => (Yields.any _).bind fun _ _ => .pure (bounded_entries hentries)

theorem bindingName_bounded : Yields Bounded bindingName :=
  (Yields.any _).bind fun _ _ => (Yields.any _).bind fun _ _ => .pure (by simp [Bounded, integers])

theorem listLiteral_bounded (h : Yields Bounded sub) : Yields Bounded (listLiteral sub) :=
  (Yields.any _).bind fun _ _ => h.spaced.itemList.bind fun _ hitems =>
    (Yields.any _).bind fun _ _ => (Yields.any _).bind fun _ _ => .pure (bounded_items hitems)

theorem bracketed_bounded (opening closing : Char) (h : Yields Bounded sub) : Yields Bounded (bracketed opening closing sub) :=
  (Yields.any _).bind fun _ _ => h.spaced.bind fun _ he => (Yields.any _).bind fun _ _ => .pure he

theorem name_bounded : Yields Bounded name := (Yields.any _).bind fun _ _ => .pure (by simp [Bounded, integers])

theorem primary_bounded (h : Yields Bounded sub) : Yields Bounded (primary sub) :=
  number_bounded.orElse <| string_bounded.orElse <| keyword_bounded.orElse <| (mapLiteral_bounded h).orElse <|
    bindingName_bounded.orElse <| (listLiteral_bounded h).orElse <| (bracketed_bounded _ _ h).orElse name_bounded

/-! ## Steps and operators -/

theorem arguments_bounded (h : Yields Bounded sub) : Yields (∀ e ∈ ·, Bounded e) (arguments sub) :=
  (Yields.any _).bind fun _ _ => h.spaced.itemList.bind fun _ hitems =>
    (Yields.any _).bind fun _ _ => (Yields.any _).bind fun _ _ => .pure hitems

theorem step?_bounded (h : Yields Bounded sub) {target : Expr} (htarget : Bounded target) {s rest : List Char}
    (hstep : step? sub target s = some (e, rest)) : Bounded e := by
  unfold step? at hstep
  split at hstep
  · split at hstep
    · rename_i hargs
      cases hstep
      exact bounded_append htarget (bounded_items (arguments_bounded h hargs))
    · cases hstep
      exact htarget
  · split at hstep
    · rename_i hkey
      cases hstep
      exact bounded_append htarget (bracketed_bounded _ _ h hkey)
    · cases hstep

theorem steps_bounded (h : Yields Bounded sub) (fuel : Nat) (he : Bounded e) : Yields Bounded (steps sub fuel e) := by
  induction fuel generalizing e with
  | zero => exact .pure he
  | succ fuel ih =>
    intro s r rest hread
    unfold steps at hread
    split at hread
    · rename_i hstep
      exact ih (step?_bounded h he hstep) hread
    · cases hread
      exact he

theorem postfixed_bounded (h : Yields Bounded sub) : Yields Bounded (postfixed sub) := by
  intro s e rest hread
  unfold postfixed at hread
  split at hread
  · rename_i hprimary
    exact steps_bounded h _ (primary_bounded h hprimary) hread
  · rename_i hother
    exact absurd hread (hother _ _)

theorem unaries_bounded (h : Yields Bounded operand) : Yields Bounded (unaries operand) := by
  intro s
  fun_induction unaries operand s with
  | case1 s op after hunary e r hread ih =>
    rintro _ _ ⟨⟩
    exact (ih hread).applyUnary op
  | case2 s op after hunary hother ih => exact ih
  | case3 s hnone => exact fun _ _ hread => h hread

theorem chain_bounded (operators : List Operator) (h : Yields Bounded operand) (fuel : Nat) (he : Bounded e) :
    Yields Bounded (chain operators operand fuel e) := by
  induction fuel generalizing e with
  | zero => exact .pure he
  | succ fuel ih =>
    intro s r rest hread
    unfold chain at hread
    split at hread
    · cases hread
      exact he
    · split at hread
      · rename_i hright
        exact ih (e := .binary _ _ _) (bounded_append he (h hright)) hread
      · rename_i hother
        exact absurd hread (hother _ _)

theorem binaries_bounded (ls : List (List Operator)) (h : Yields Bounded operand) : Yields Bounded (binaries ls operand) := by
  induction ls with
  | nil => exact h
  | cons operators ls ih =>
    intro s e rest hread
    rw [binaries, level] at hread
    split at hread
    · rename_i hleft
      exact chain_bounded operators ih _ (ih hleft) hread
    · rename_i hother
      exact absurd hread (hother _ _)

theorem branches_bounded (h : Yields Bounded sub) (htest : Bounded test) : Yields Bounded (branches sub test) :=
  (Yields.any _).bind fun _ _ => h.bind fun _ hyes => (Yields.any _).bind fun _ _ => (Yields.any _).bind fun _ _ =>
    (Yields.any _).bind fun _ _ => h.bind fun _ hno => .pure (bounded_append (bounded_append htest hyes) hno)

/-! ## Whole expressions -/

theorem nested_bounded (limit : Nat) : Yields Bounded (nested limit) := by
  -- What stands in brackets and branches is read with a smaller limit.
  induction limit with
  | zero => exact fun _ _ _ h => by cases h
  | succ limit ih =>
    intro s e rest hread
    rw [nested, conditionalWith] at hread
    split at hread
    · rename_i htest
      have hbounded := binaries_bounded levels (unaries_bounded (postfixed_bounded ih)) htest
      split at hread
      · exact branches_bounded ih hbounded hread
      · cases hread
        exact hbounded
    · rename_i hother
      exact absurd hread (hother _ _)

theorem readAll_bounded {text : List Char} (h : readAll text = .ok e) : Bounded e := by
  unfold readAll at h
  split at h
  · rename_i hread
    split at h
    · cases h
      exact nested_bounded _ hread
    · cases h
  · cases h
  · cases h

theorem parse_bounded {text : String} (h : parse text = .ok e) : Bounded e := by
  unfold parse at h
  dsimp only at h
  split at h
  · cases h
  · exact readAll_bounded (Computation.mapError_ok.1 h)

end Readers

/-! ## Evaluation -/

theorem eval_binary {op : BinaryOp} {left right : Expr} {b : Bindings} {x y : Value} (hop : op ≠ .and ∧ op ≠ .or)
    (hleft : left.eval b = .ok x) (hright : right.eval b = .ok y) :
    (Expr.binary left op right).eval b = liftFault (applyBinary op x y) := by
  rw [eval, hleft, hright]
  · rfl
  · exact hop.1
  · exact hop.2

theorem eval_neg {operand : Expr} {b : Bindings} {x : Value} (h : operand.eval b = .ok x) :
    (Expr.unary .neg operand).eval b = liftFault x.negate := by
  rw [eval, h]
  rfl

/-- Integers are computed exactly or not at all. An operation on them has its mathematical result, or an error if the divisor is zero or 64
bits do not hold it; so has a negation. The literals of an expression that was read are above the least integer of 64 bits, and a
minus sign before one makes it its exact opposite wherever it is read, also on the way to an error. -/
theorem integers_exact :
    (∀ (b : Bindings) (left right : Expr) (op : BinaryOp) (x y : Value) (m n : Int64), left.eval b = .ok x → right.eval b = .ok y →
        op.Takes x y m n → ∃ r, (Expr.binary left op right).eval b = liftFault r ∧ op.Ends m.toInt n.toInt r) ∧
      (∀ (b : Bindings) (operand : Expr) (n : Int64), operand.eval b = .ok (.int n) →
        (∃ w : Int64, (Expr.unary .neg operand).eval b = .ok (.int w) ∧ w.toInt = -n.toInt) ∨
          ((Expr.unary .neg operand).eval b = .error (.fault (.overflow .sub)) ∧ ¬ FitsWord (-n.toInt))) ∧
      (∀ (text : String) (e : Expr), parse text = .ok e → ∀ n ∈ e.integers, Int64.minValue < n) ∧
      ∀ (limit : Nat) (s after rest : List Char) (n : Int64), takeUnary? s = some (.neg, after) →
        unaries (postfixed (nested limit)) (skipGaps after) = .done (.literal (.int n)) rest →
          unaries (postfixed (nested limit)) s = .done (.literal (.int (-n))) rest ∧ (-n).toInt = -n.toInt := by
  refine ⟨?_, ?_, fun text e h => parse_bounded h, ?_⟩
  · intro b left right op x y m n hleft hright htakes
    have hop : op ≠ .and ∧ op ≠ .or := by
      rcases htakes with ⟨rfl, -⟩ | ⟨hop, -⟩
      · decide
      · revert hop op
        decide
    exact ⟨_, eval_binary hop hleft hright, Value.applyBinary_ends htakes⟩
  · intro b operand n h
    rw [eval_neg h, Value.negate]
    rcases Value.exact_cases .sub (-n.toInt) with ⟨w, hexact, hw⟩ | ⟨hexact, hbeyond⟩
    · rw [hexact]
      exact .inl ⟨w, rfl, hw⟩
    · rw [hexact]
      exact .inr ⟨rfl, hbeyond⟩
  · intro limit s after rest n hunary hread
    -- A literal that was read is above the least integer, and so has an opposite.
    have hbounded := unaries_bounded (postfixed_bounded (nested_bounded limit)) hread
    exact ⟨unaries_some hunary hread, (bounded_neg (bounded_int.1 hbounded)).1⟩

/-- The remainder of the least integer by minus one is an error, though zero would fit, and so is its negation. -/
theorem integers_exact_least :
    (∃ r, (Expr.binary (.literal (.int Int64.minValue)) .rem (.literal (.string " -1 "))).eval [] = liftFault r ∧
        BinaryOp.rem.Ends (-9223372036854775808) (-1) r) ∧
      ((∃ w : Int64, (Expr.unary .neg (.literal (.int Int64.minValue))).eval [] = .ok (.int w) ∧ w.toInt = 9223372036854775808) ∨
        ((Expr.unary .neg (.literal (.int Int64.minValue))).eval [] = .error (.fault (.overflow .sub)) ∧
          ¬ FitsWord 9223372036854775808)) ∧
      (∃ e, parse "(-7 - 1)" = .ok e ∧ ∀ n ∈ e.integers, Int64.minValue < n) ∧
      unaries (postfixed (nested 9)) ['-', ' ', '-', '5'] = .done (.literal (.int 5)) [] := by
  have htrim : trim (" -1 " : String).toList = ['-'] ++ ['1'] := by decide
  have hstands : (Value.string " -1 ").StandsFor (-1) := .text htrim (by simp) (by simp) (by simp) (by decide)
  have htext : (Expr.binary (.literal (.int (-7))) .sub (.literal (.int 1))).text = "(-7 - 1)" := by decide
  have hparse := parse_text (.binary .sub (.int (n := -7) (by decide)) (.int (n := 1) (by decide)))
  rw [htext] at hparse
  have hread : unaries (postfixed (nested 9)) (skipGaps [' ', '-', '5']) = .done (.literal (.int (-5))) [] :=
    reads_int (n := -5) (by decide) 9 [] (by decide) (by simp [Stops])
  exact ⟨integers_exact.1 [] _ _ .rem _ _ Int64.minValue (-1) rfl rfl (.inr ⟨by simp, .int _, hstands⟩),
    integers_exact.2.1 [] _ Int64.minValue rfl, ⟨_, hparse, integers_exact.2.2.1 _ _ hparse⟩,
    (integers_exact.2.2.2 9 _ _ _ _ rfl hread).1⟩

end SqlTemplate.Expr
