import SqlTemplate.Error
import SqlTemplate.Expr.Evaluate

/-! # The state of a rendering

A rendering writes fragments of SQL, binds names and counts the iterations of its loops. What was written and bound before an
error stays.
-/

namespace SqlTemplate

structure Context where
  bindings : Bindings
  /-- The fragments written so far, the oldest first. -/
  fragments : List String
  /-- The number of loop iterations begun so far. -/
  counter : Nat

namespace Context

def initial (parameter : Value) (databaseId : Option String) : Context :=
  ⟨Bindings.initial parameter databaseId, [], 0⟩

/-- The SQL written so far. -/
def sql (c : Context) : String := Text.trimString (" ".intercalate c.fragments)

def bind (name : String) (value : Value) (c : Context) : Context :=
  { c with bindings := Dict.insert name value c.bindings }

def unbind (name : String) (c : Context) : Context := { c with bindings := Dict.erase c.bindings name }

def append (s : String) (c : Context) : Context := { c with fragments := c.fragments ++ [s] }

/-- Gives a name the value it had before, or takes it away. -/
def restore (name : String) : Option Value → Context → Context
  | some value, c => c.bind name value
  | none, c => c.unbind name

end Context

def Error.ofEval : EvalError → Error
  | .unresolved u => .unresolved u
  | .fault f => .evaluation f

abbrev Render := ExceptT Error (StateM Context)

namespace Render

def bind (name : String) (value : Value) : Render Unit := modify (·.bind name value)

def append (s : String) : Render Unit := modify (·.append s)

/-- The number of the next iteration. -/
def next : Render Nat := modifyGet fun c => (c.counter, { c with counter := c.counter + 1 })

def eval (e : Expr) : Render Value := do
  let c ← get
  MonadExcept.ofExcept ((e.eval c.bindings).mapError Error.ofEval)

def evalTest (e : Expr) : Render Bool := do
  let v ← eval e
  pure v.isTruthy

/-- The value of an expression, or nothing if a name in it is not resolved. -/
def eval? (e : Expr) : Render (Option Value) := do
  let c ← get
  match e.eval c.bindings with
  | .ok v => pure (some v)
  | .error (.unresolved _) => pure none
  | .error (.fault f) => throw (.evaluation f)

/-- What a rendering writes, which is kept out of the fragments. They are restored after an error too. -/
def capture {α : Type} (r : Render α) : Render String := fun c =>
  let (result, inner) := r { c with fragments := [] }
  (result.map fun _ => " ".intercalate inner.fragments, { inner with fragments := c.fragments })

/-- Gives the names their present values back at the end, after an error too. -/
def keeping {α : Type} (names : List String) (r : Render α) : Render α := fun c =>
  let (result, inner) := r c
  (result, names.foldl (fun d name => d.restore name (Dict.get? c.bindings name)) inner)

end Render

end SqlTemplate
