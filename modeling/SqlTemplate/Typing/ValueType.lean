import SqlTemplate.Path
import SqlTemplate.Text.Ascii

/-! # Types of values

The type of a parameter or of a property, built in or declared.
-/

namespace SqlTemplate

inductive BuiltinType
  /-- Any value. The converter is chosen by the value itself. -/
  | object
  | boolean
  | byte
  | short
  | integer
  | long
  | float
  | double
  | decimal
  | string
  | bytes
  | date
  | time
  | timestamp
  | list
  | map
  | cursor
  deriving DecidableEq

namespace BuiltinType

def name : BuiltinType → String
  | .object => "object"
  | .boolean => "boolean"
  | .byte => "byte"
  | .short => "short"
  | .integer => "integer"
  | .long => "long"
  | .float => "float"
  | .double => "double"
  | .decimal => "decimal"
  | .string => "string"
  | .bytes => "bytes"
  | .date => "date"
  | .time => "time"
  | .timestamp => "timestamp"
  | .list => "list"
  | .map => "map"
  | .cursor => "cursor"

/-- The type that a name in lower case stands for. -/
def ofAlias? : String → Option BuiltinType
  | "object" => some .object
  | "boolean" | "bool" => some .boolean
  | "byte" => some .byte
  | "short" => some .short
  | "int" | "integer" => some .integer
  | "long" => some .long
  | "float" => some .float
  | "double" => some .double
  | "decimal" | "bigdecimal" | "biginteger" => some .decimal
  | "string" | "char" | "character" => some .string
  | "bytes" | "byte[]" => some .bytes
  | "date" | "localdate" => some .date
  | "time" | "localtime" => some .time
  | "timestamp" | "localdatetime" | "datetime" | "instant" => some .timestamp
  | "list" | "arraylist" | "collection" | "array" => some .list
  | "map" | "hashmap" => some .map
  | "cursor" | "resultset" => some .cursor
  | _ => none

/-- The type that a name stands for. Blanks around it, ASCII case and leading underscores do not count. -/
def read? (text : String) : Option BuiltinType :=
  ofAlias? (.ofList ((Text.asciiLower (Text.trimString text)).toList.dropWhile (· == '_')))

end BuiltinType

/-- An enumeration, whose values are the names of its variants. -/
structure EnumType where
  name : String
  variants : List String
  deriving DecidableEq

/-- The first position of a variant. -/
def EnumType.ordinal? (e : EnumType) (variant : String) : Option Nat := e.variants.idxOf? variant

inductive ValueType
  | builtin (t : BuiltinType)
  | enumeration (e : EnumType)
  | record (name : String) (properties : List (String × ValueType))

namespace ValueType

mutual

def decEq : (s t : ValueType) → Decidable (s = t)
  | .builtin a, .builtin b => if h : a = b then .isTrue (by rw [h]) else .isFalse (by simpa using h)
  | .enumeration a, .enumeration b => if h : a = b then .isTrue (by rw [h]) else .isFalse (by simpa using h)
  | .record m ps, .record n qs =>
    match decEqProperties ps qs with
    | .isTrue h => if hn : m = n then .isTrue (by rw [hn, h]) else .isFalse (by simp [hn])
    | .isFalse h => .isFalse (by simp [h])
  | .builtin _, .enumeration _ | .builtin _, .record _ _ | .enumeration _, .builtin _
  | .enumeration _, .record _ _ | .record _ _, .builtin _ | .record _ _, .enumeration _ => .isFalse (by simp)

def decEqProperties : (ps qs : List (String × ValueType)) → Decidable (ps = qs)
  | [], [] => .isTrue rfl
  | [], _ :: _ | _ :: _, [] => .isFalse (by simp)
  | (m, s) :: ps, (n, t) :: qs =>
    match decEq s t, decEqProperties ps qs with
    | .isTrue hs, .isTrue hp => if hn : m = n then .isTrue (by rw [hn, hs, hp]) else .isFalse (by simp [hn])
    | .isFalse hs, _ => .isFalse (by simp [hs])
    | _, .isFalse hp => .isFalse (by simp [hp])

end

instance : DecidableEq ValueType := decEq

@[match_pattern]
def object : ValueType := .builtin .object

@[match_pattern]
def cursor : ValueType := .builtin .cursor

@[match_pattern]
def list : ValueType := .builtin .list

@[match_pattern]
def map : ValueType := .builtin .map

def name : ValueType → String
  | .builtin t => t.name
  | .enumeration e => e.name
  | .record name _ => name

def isEnumeration : ValueType → Bool
  | .enumeration _ => true
  | _ => false

/-- The type at the end of one step. The types of list items are not known. -/
def step? : ValueType → Step → Option ValueType
  | .record _ properties, .property name => properties.lookup name
  | .builtin .list, .index _ => some object
  | .builtin .map, _ | .builtin .object, _ => some object
  | _, _ => none

/-- The type of the property that the steps lead to. -/
def select? (t : ValueType) : List Step → Option ValueType
  | [] => some t
  | s :: steps => (t.step? s).bind (·.select? steps)

end ValueType

/-- The type that a value has by itself. -/
def Value.type : Value → ValueType
  | .null => .builtin .object
  | .bool _ => .builtin .boolean
  | .int _ => .builtin .long
  | .float _ => .builtin .double
  | .string _ => .builtin .string
  | .list _ => .builtin .list
  | .map _ => .builtin .map

end SqlTemplate
