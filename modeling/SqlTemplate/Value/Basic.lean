import SqlTemplate.Dict
import SqlTemplate.Number.Decimal
import SqlTemplate.Text.Blank

/-! # Values

A value is a parameter object, a bound variable or the result of an expression.
-/

namespace SqlTemplate

inductive Value
  | null
  | bool (b : Bool)
  | int (n : Int64)
  | float (x : Float)
  | string (s : String)
  | list (items : List Value)
  /-- The entries are sorted by key. -/
  | map (entries : List (String × Value))
  deriving Inhabited

namespace Value

def ofNat (n : Nat) : Value := .int (Int64.ofNat n)

def isNull : Value → Bool
  | .null => true
  | _ => false

/-- A value without properties of its own. -/
def isScalar : Value → Bool
  | .null | .list _ | .map _ => false
  | _ => true

/-- What a condition makes of a value. -/
def isTruthy : Value → Bool
  | .null => false
  | .bool b => b
  | .int n => n != 0
  | .float x => x != 0
  | .string s => !s.isEmpty
  | .list items => !items.isEmpty
  | .map entries => !entries.isEmpty

/-- The name of the kind of value, as messages give it. -/
def kindName : Value → String
  | .null => "null"
  | .bool _ => "boolean"
  | .int _ => "integer"
  | .float _ => "float"
  | .string _ => "string"
  | .list _ => "list"
  | .map _ => "map"

def intText (n : Int64) : String := .ofList (Number.intText n.toInt)

mutual

/-- The text a value has in SQL and in messages. -/
def text : Value → String
  | .null => "null"
  | .bool true => "true"
  | .bool false => "false"
  | .int n => intText n
  | .float x => Number.plain.text x
  | .string s => s
  | .list items => "[" ++ ", ".intercalate (texts items) ++ "]"
  | .map entries => "\x7b" ++ ", ".intercalate (entryTexts entries) ++ "\x7d"

def texts : List Value → List String
  | [] => []
  | v :: items => text v :: texts items

def entryTexts : List (String × Value) → List String
  | [] => []
  | (key, v) :: entries => (key ++ "=" ++ text v) :: entryTexts entries

end

mutual

/-- Structural equality. Integers and floating-point numbers are never the same, and no NaN is the same as itself. -/
def same : Value → Value → Bool
  | .null, .null => true
  | .bool a, .bool b => a == b
  | .int a, .int b => a == b
  | .float a, .float b => a == b
  | .string a, .string b => a == b
  | .list a, .list b => sameItems a b
  | .map a, .map b => sameEntries a b
  | _, _ => false

def sameItems : List Value → List Value → Bool
  | [], [] => true
  | a :: as, b :: bs => same a b && sameItems as bs
  | _, _ => false

def sameEntries : List (String × Value) → List (String × Value) → Bool
  | [], [] => true
  | (j, a) :: as, (k, b) :: bs => j == k && same a b && sameEntries as bs
  | _, _ => false

end

/-! ## Numbers -/

/-- The integer that a value stands for. Of the floating-point numbers only whole ones do, and one beyond the
range gives the end of the range. -/
def asInt? : Value → Option Int64
  | .int n => some n
  | .float x => (Number.integer? x).map Number.clampInt64
  | .string s => Number.readInt64? (Text.trim s.toList)
  | _ => none

def asFloat? : Value → Option Float
  | .int n => some (Number.ofInt n.toInt)
  | .float x => some x
  | .string s => Number.readFloat? (Text.trim s.toList)
  | _ => none

/-! ## Access -/

/-- A key that a map lacks reads as null. Only maps have properties. -/
def property? (v : Value) (name : String) : Option Value :=
  match v with
  | .map entries => some ((Dict.get? entries name).getD .null)
  | _ => none

/-- The item of a list at a position that counts from zero. -/
def item? (items : List Value) (position : Int64) : Option Value :=
  if 0 ≤ position.toInt then items[position.toInt.toNat]? else none

/-- A list is indexed by position, a map by the text of a scalar. -/
def index? (v key : Value) : Option Value :=
  match v with
  | .list items => key.asInt?.bind (item? items)
  | .map entries => if key.isScalar then some ((Dict.get? entries key.text).getD .null) else none
  | _ => none

end Value

end SqlTemplate
