import SqlTemplate.Value.Basic

/-! # JSON

Parameters arrive as JSON. A number without fraction and exponent is an integer as long as 64 bits hold it, with or
without sign.
-/

namespace SqlTemplate

inductive Json
  | null
  | bool (b : Bool)
  | int (n : Int)
  | float (x : Float)
  | string (s : String)
  | array (items : List Json)
  /-- The entries are sorted by key. -/
  | object (entries : List (String × Json))
  deriving Inhabited

namespace Json

def ofOption (f : α → Json) : Option α → Json
  | some a => f a
  | none => .null

def get? (key : String) : Json → Option Json
  | .object entries => Dict.get? entries key
  | _ => none

end Json

namespace Value

/-- An integer beyond the range of a value becomes the nearest floating-point number. -/
def ofInt (n : Int) : Value :=
  match Number.toInt64? n with
  | some w => .int w
  | none => .float (Number.ofInt n)

mutual

def ofJson : Json → Value
  | .null => .null
  | .bool b => .bool b
  | .int n => ofInt n
  | .float x => .float x
  | .string s => .string s
  | .array items => .list (ofItems items)
  | .object entries => .map (ofEntries entries)

def ofItems : List Json → List Value
  | [] => []
  | j :: items => ofJson j :: ofItems items

def ofEntries : List (String × Json) → List (String × Value)
  | [] => []
  | (key, j) :: entries => (key, ofJson j) :: ofEntries entries

end

mutual

/-- What has no digits becomes null. -/
def toJson : Value → Json
  | .null => .null
  | .bool b => .bool b
  | .int n => .int n.toInt
  | .float x => if x.isFinite then .float x else .null
  | .string s => .string s
  | .list items => .array (toItems items)
  | .map entries => .object (toEntries entries)

def toItems : List Value → List Json
  | [] => []
  | v :: items => toJson v :: toItems items

def toEntries : List (String × Value) → List (String × Json)
  | [] => []
  | (key, v) :: entries => (key, toJson v) :: toEntries entries

end

end Value

end SqlTemplate
