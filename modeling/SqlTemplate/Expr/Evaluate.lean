import SqlTemplate.Bindings
import SqlTemplate.Value.Arithmetic
import SqlTemplate.Value.Method

/-! # Evaluating expressions -/

namespace SqlTemplate

/-- Why an expression has no value. -/
inductive EvalError
  | unresolved (u : Unresolved)
  | fault (f : EvaluationFault)

namespace Expr

def liftFault {α : Type} (r : Except EvaluationFault α) : Except EvalError α := r.mapError .fault

def orUnresolved (b : Bindings) (e : Expr) : Option Value → Except EvalError Value
  | some v => .ok v
  | none => .error (.unresolved (b.unresolved e.text))

/-- A property of a value, the whole expression being `e`. -/
def evalProperty (b : Bindings) (e : Expr) (base : Value) (name : String) : Except EvalError Value :=
  match base.sizeProperty? name with
  | some n => .ok (.ofNat n)
  | none => orUnresolved b e (base.property? name)

def ordered (accept : Ordering → Bool) (l r : Value) : Except EvaluationFault Value :=
  (l.order r).map fun o => .bool (accept o)

/-- The operators that evaluate both operands. -/
def applyBinary (op : BinaryOp) (l r : Value) : Except EvaluationFault Value :=
  match op with
  | .eq => .ok (.bool (l.equals r))
  | .ne => .ok (.bool (!l.equals r))
  | .lt => ordered (· == .lt) l r
  | .le => ordered (· != .gt) l r
  | .gt => ordered (· == .gt) l r
  | .ge => ordered (· != .lt) l r
  | .isIn => (r.holds l).map .bool
  | .notIn => (r.holds l).map fun found => .bool (!found)
  | .add => l.plus r
  | op => l.arithmetic op r

mutual

def eval (b : Bindings) : Expr → Except EvalError Value
  | .literal v => .ok v
  | .ident name => (b.lookup name).mapError .unresolved
  | .binding name =>
    match Dict.get? b name with
    | some v => .ok v
    | none => .error (.unresolved (b.unresolved ("#" ++ name)))
  | .property target name => do
    let base ← target.eval b
    evalProperty b (.property target name) base name
  | .index target key => do
    let base ← target.eval b
    let k ← key.eval b
    orUnresolved b (.index target key) (base.index? k)
  | .call target method args => do
    let base ← target.eval b
    if base.isNull then .error (.unresolved (b.unresolved (text (.call target method args))))
    else
      let values ← evalItems b args
      liftFault (base.call method values)
  | .unary .not operand => do
    let v ← operand.eval b
    .ok (.bool (!v.isTruthy))
  | .unary .neg operand => do
    let v ← operand.eval b
    liftFault v.negate
  | .binary left .and right => do
    let l ← left.eval b
    if l.isTruthy then
      let r ← right.eval b
      .ok (.bool r.isTruthy)
    else .ok (.bool false)
  | .binary left .or right => do
    let l ← left.eval b
    if l.isTruthy then .ok (.bool true)
    else
      let r ← right.eval b
      .ok (.bool r.isTruthy)
  | .binary left op right => do
    let l ← left.eval b
    let r ← right.eval b
    liftFault (applyBinary op l r)
  | .conditional test yes no => do
    let t ← test.eval b
    if t.isTruthy then yes.eval b else no.eval b
  | .list items => do
    let values ← evalItems b items
    .ok (.list values)
  | .map entries => do
    let values ← evalEntries b entries
    .ok (.map (Dict.ofList values))

def evalItems (b : Bindings) : List Expr → Except EvalError (List Value)
  | [] => .ok []
  | e :: items => do
    let v ← e.eval b
    let vs ← evalItems b items
    .ok (v :: vs)

def evalEntries (b : Bindings) : List (Expr × Expr) → Except EvalError (List (String × Value))
  | [] => .ok []
  | (key, e) :: entries => do
    let k ← key.eval b
    let v ← e.eval b
    let rest ← evalEntries b entries
    .ok ((k.text, v) :: rest)

end

/-- What a test makes of an expression. -/
def evalTest (b : Bindings) (e : Expr) : Except EvalError Bool := (e.eval b).map Value.isTruthy

end Expr

end SqlTemplate
