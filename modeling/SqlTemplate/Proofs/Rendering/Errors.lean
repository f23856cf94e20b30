import SqlTemplate.Proofs.Computation
import SqlTemplate.Proofs.Rendering.Closure

/-! # Which errors a rendering ends with

A rendering fails where an expression does or where a loop cannot go over its collection. Nothing of a template is checked then.
-/

namespace SqlTemplate

open SqlTemplate.Computation

namespace Error

/-- An error that depends on the parameter: a name is not resolved, a converter is missing, or an evaluation fails. -/
def isRunTime : Error → Bool
  | .unresolved _ | .noHandler _ _ | .evaluation _ => true
  | _ => false

/-- An error of an expression. -/
def isEvaluation : Error → Bool
  | .unresolved _ | .evaluation _ => true
  | _ => false

theorem isEvaluation_ofEval (e : EvalError) : (ofEval e).isEvaluation = true := by cases e <;> rfl

theorem isRunTime_of_isEvaluation {e : Error} (h : e.isEvaluation = true) : e.isRunTime = true := by
  cases e <;> first | rfl | cases h

theorem not_isCompile_of_isRunTime {e : Error} (h : e.isRunTime = true) : e.isCompile = false := by
  cases e <;> first | rfl | cases h

end Error

/-- All errors are those of expressions. -/
abbrev FailsByValue {α : Type} (r : Render α) : Prop := FailsWith (fun e : Error => e.isEvaluation = true) r

namespace Render

theorem ofExcept_failsByValue {α : Type} (x : Except EvalError α) :
    FailsByValue (MonadExcept.ofExcept (x.mapError Error.ofEval)) := by
  refine .ofExcept fun e h => ?_
  cases x with
  | error err =>
    cases h
    exact Error.isEvaluation_ofEval err
  | ok a => cases h

theorem eval_failsByValue (e : Expr) : FailsByValue (eval e) := .bind .get fun _ => ofExcept_failsByValue _

theorem eval?_failsByValue (e : Expr) : FailsByValue (eval? e) := by
  refine .bind .get fun c => ?_
  split
  · exact .pure _
  · exact .pure _
  · exact .throw rfl

theorem segments_failsByValue (parts : List Segment) : FailsByValue (segments parts) :=
  .bind (.modify _) fun _ => .bind .get fun _ => ofExcept_failsByValue _

theorem capture_failsByValue {α : Type} {r : Render α} (h : FailsByValue r) : FailsByValue (capture r) := by
  intro c e he
  refine h { c with fragments := [] } e ?_
  change ((run r { c with fragments := [] }).1.map fun _ => _) = .error e at he
  cases hr : (run r { c with fragments := [] }).1 <;> rw [hr] at he <;> cases he
  rfl

theorem failsByValue_closed : Closed FailsByValue where
  pure := .pure
  bind := .bind
  eval := eval_failsByValue
  eval? := eval?_failsByValue
  segments := segments_failsByValue
  append _ := .modify _
  bindName _ _ := .modify _
  next _ _ h := by cases h
  capture := capture_failsByValue
  keeping _ _ h c e he := h c e he
  notIterable _ _ := .throw rfl

end Render

theorem Node.render_failsByValue (n : Node) : FailsByValue n.render := render_closed Render.failsByValue_closed n

end SqlTemplate
