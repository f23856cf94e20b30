import SqlTemplate.Expr.Basic

/-! # What goes wrong with values

The causes for which a rendering or a conversion stops, and their messages.
-/

namespace SqlTemplate

inductive EvaluationFault
  | overflow (op : BinaryOp)
  | divisionByZero
  | notNegatable (v : Value)
  | incomparable (l r : Value)
  | notSearchable (v : Value)
  | notArithmetic (op : BinaryOp) (l r : Value)
  | wrongArity (method : String) (expected given : Nat)
  | noSuchMethod (method : String) (target : Value)
  | unknownMethod (method : String)
  | notIterable (collection : Expr) (v : Value)
  | inconvertible (converter : String) (v : Value)
  | outOfRange (n : Int64) (converter : String)
  | notVariant (v : Value) (enumName : String) (variants : List String)

namespace EvaluationFault

/-- The kind and the text of a value. -/
def described (v : Value) : String := v.kindName ++ " '" ++ v.text ++ "'"

def cause : EvaluationFault → String
  | .overflow op => "integer overflow in '" ++ op.text ++ "'"
  | .divisionByZero => "division by zero"
  | .notNegatable v => "cannot negate " ++ v.kindName ++ " value '" ++ v.text ++ "'"
  | .incomparable l r => "cannot compare " ++ described l ++ " with " ++ described r
  | .notSearchable v => "'in' needs a collection, found " ++ described v
  | .notArithmetic op l r => "cannot apply '" ++ op.text ++ "' to " ++ described l ++ " and " ++ described r
  | .wrongArity method expected given =>
    method ++ "() takes " ++ toString expected ++ " argument(s), " ++ toString given ++ " given"
  | .noSuchMethod method target => "method " ++ method ++ "() is not available on " ++ described target
  | .unknownMethod method => "unknown method " ++ method ++ "()"
  | .notIterable collection v =>
    "foreach collection '" ++ collection.text ++ "' is not iterable (" ++ described v ++ ")"
  | .inconvertible converter v =>
    converter ++ " handler cannot convert " ++ v.kindName ++ " value '" ++ v.text ++ "'"
  | .outOfRange n converter => Value.intText n ++ " out of range for " ++ converter
  | .notVariant v enumName variants =>
    "'" ++ v.text ++ "' is not a variant of " ++ enumName ++ " (expected one of: " ++ ", ".intercalate variants ++ ")"

def message (f : EvaluationFault) : String := "Evaluation error: " ++ f.cause

end EvaluationFault

end SqlTemplate
