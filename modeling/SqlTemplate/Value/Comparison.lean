import SqlTemplate.EvaluationFault
import SqlTemplate.Text.Search

/-! # Comparing values

Numbers of both kinds compare by size, and a string that reads as a number compares with a number as that number.
-/

namespace SqlTemplate.Value

def isNumber : Value → Bool
  | .int _ | .float _ => true
  | _ => false

def number? (v : Value) : Option Float := if v.isNumber then v.asFloat? else none

def numericString? : Value → Option Float
  | .string s => Number.readFloat? (Text.trim s.toList)
  | _ => none

/-- Both are numbers and equal. A NaN equals nothing. -/
def sameNumber : Option Float → Option Float → Bool
  | some a, some b => a == b
  | _, _ => false

def equals (l r : Value) : Bool :=
  match l, r with
  | .int a, .int b => a == b
  | .int _, .float _ | .float _, .int _ | .float _, .float _ => sameNumber l.number? r.number?
  | .int _, .string _ | .float _, .string _ => sameNumber l.number? r.numericString?
  | .string _, .int _ | .string _, .float _ => sameNumber r.number? l.numericString?
  | l, r => l.same r

def orderOf (lt eq : Bool) : Ordering := if lt then .lt else if eq then .eq else .gt

/-- Neither is smaller when one is a NaN. -/
def floatOrder? (a b : Float) : Option Ordering :=
  if a < b then some .lt else if a == b then some .eq else if b < a then some .gt else none

/-- The number that a value is beside another: a string counts only beside a number. -/
def numberBeside? (v other : Value) : Option Float :=
  match v.number? with
  | some x => some x
  | none => if other.isNumber then v.numericString? else none

def order? (l r : Value) : Option Ordering :=
  match l, r with
  | .int a, .int b => some (compare a.toInt b.toInt)
  | .string a, .string b => some (orderOf (a < b) (a == b))
  | l, r =>
    match l.numberBeside? r, r.numberBeside? l with
    | some a, some b => floatOrder? a b
    | _, _ => none

def order (l r : Value) : Except EvaluationFault Ordering :=
  match order? l r with
  | some o => .ok o
  | none => .error (.incomparable l r)

/-- Whether a list has the item, a map the key or a string the part. -/
def holds (collection item : Value) : Except EvaluationFault Bool :=
  match collection with
  | .list items => .ok (items.any (·.equals item))
  | .map entries => .ok (Dict.contains entries item.text)
  | .string s => .ok (Text.contains item.text.toList s.toList)
  | v => .error (.notSearchable v)

end SqlTemplate.Value
