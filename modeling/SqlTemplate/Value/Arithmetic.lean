import SqlTemplate.Value.Comparison

/-! # Arithmetic

Integers, and strings that read as integers, are computed exactly or not at all. Everything else that reads as a number is
computed in floating point.
-/

namespace SqlTemplate.Value

def integerOperand? : Value → Option Int64
  | .int n => some n
  | .string s => Number.readInt64? (Text.trim s.toList)
  | _ => none

def exact (op : BinaryOp) (n : Int) : Except EvaluationFault Value :=
  match Number.toInt64? n with
  | some w => .ok (.int w)
  | none => .error (.overflow op)

/-- Division and remainder go toward zero. A remainder needs its quotient to fit too. -/
def integerArithmetic (op : BinaryOp) (a b : Int) : Option (Except EvaluationFault Value) :=
  match op with
  | .add => some (exact op (a + b))
  | .sub => some (exact op (a - b))
  | .mul => some (exact op (a * b))
  | .div => some (if b = 0 then .error .divisionByZero else exact op (a.tdiv b))
  | .rem =>
    some (if b = 0 then .error .divisionByZero
      else do
        let _ ← exact op (a.tdiv b)
        exact op (a.tmod b))
  | _ => none

def floatArithmetic (op : BinaryOp) (a b : Float) : Option (Except EvaluationFault Value) :=
  match op with
  | .add => some (.ok (.float (a + b)))
  | .sub => some (.ok (.float (a - b)))
  | .mul => some (.ok (.float (a * b)))
  | .div => some (if b == 0 then .error .divisionByZero else .ok (.float (a / b)))
  | .rem => some (if b == 0 then .error .divisionByZero else .ok (.float (Number.remainder a b)))
  | _ => none

def floatOperand? (v : Value) : Option Float := v.number? <|> v.numericString?

def arithmetic? (op : BinaryOp) (l r : Value) : Option (Except EvaluationFault Value) :=
  match l.integerOperand?, r.integerOperand? with
  | some a, some b => integerArithmetic op a.toInt b.toInt
  | _, _ =>
    match l.floatOperand?, r.floatOperand? with
    | some a, some b => floatArithmetic op a b
    | _, _ => none

def arithmetic (op : BinaryOp) (l r : Value) : Except EvaluationFault Value :=
  (arithmetic? op l r).getD (.error (.notArithmetic op l r))

def isString : Value → Bool
  | .string _ => true
  | _ => false

/-- A sum with a string is the two texts in a row. -/
def plus (l r : Value) : Except EvaluationFault Value :=
  if l.isString || r.isString then .ok (.string (l.text ++ r.text)) else arithmetic .add l r

def negate : Value → Except EvaluationFault Value
  | .int n => exact .sub (-n.toInt)
  | .float x => .ok (.float (-x))
  | v => .error (.notNegatable v)

end SqlTemplate.Value
