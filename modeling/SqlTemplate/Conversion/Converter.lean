import SqlTemplate.Calendar.Reader
import SqlTemplate.EvaluationFault
import SqlTemplate.Text.Ascii
import SqlTemplate.Typing.ValueType

/-! # Converters

A converter makes of a value what is bound to a statement, and of what a column holds a value again. Null is null in both
directions.
-/

namespace SqlTemplate

inductive IntegerSize
  | byte
  | short
  | integer
  | long
  deriving DecidableEq

namespace IntegerSize

def name : IntegerSize → String
  | .byte => "byte"
  | .short => "short"
  | .integer => "integer"
  | .long => "long"

/-- The least number of the size. -/
def least : IntegerSize → Int
  | .byte => Int8.minValue.toInt
  | .short => Int16.minValue.toInt
  | .integer => Int32.minValue.toInt
  | .long => Int64.minValue.toInt

/-- The greatest number of the size. -/
def greatest : IntegerSize → Int
  | .byte => Int8.maxValue.toInt
  | .short => Int16.maxValue.toInt
  | .integer => Int32.maxValue.toInt
  | .long => Int64.maxValue.toInt

def holds (s : IntegerSize) (n : Int) : Bool := s.least ≤ n && n ≤ s.greatest

end IntegerSize

inductive FloatSize
  | float
  | double
  deriving DecidableEq

def FloatSize.name : FloatSize → String
  | .float => "float"
  | .double => "double"

inductive TextKind
  | string
  | clob
  | nString
  | nClob
  | sqlXml
  deriving DecidableEq

def TextKind.name : TextKind → String
  | .string => "string"
  | .clob => "clob"
  | .nString => "nstring"
  | .nClob => "nclob"
  | .sqlXml => "sqlxml"

inductive BytesKind
  | bytes
  | blob
  deriving DecidableEq

def BytesKind.name : BytesKind → String
  | .bytes => "bytes"
  | .blob => "blob"

inductive TemporalKind
  | date
  | time
  | timestamp
  deriving DecidableEq

def TemporalKind.name : TemporalKind → String
  | .date => "date"
  | .time => "time"
  | .timestamp => "timestamp"

/-- How the variants of an enumeration are bound. -/
inductive EnumStyle
  | name
  | ordinal
  deriving DecidableEq

namespace EnumStyle

/-- The name of the style in a configuration. -/
def text : EnumStyle → String
  | .name => "name"
  | .ordinal => "ordinal"

def converterName : EnumStyle → String
  | .name => "enum_name"
  | .ordinal => "enum_ordinal"

end EnumStyle

inductive Converter
  | object
  | boolean
  | integer (size : IntegerSize)
  | float (size : FloatSize)
  | decimal
  | text (kind : TextKind)
  | bytes (kind : BytesKind)
  | temporal (kind : TemporalKind)
  | array
  | enumeration (style : EnumStyle) (e : EnumType)
  deriving DecidableEq

namespace Converter

def name : Converter → String
  | .object => "object"
  | .boolean => "boolean"
  | .integer size => size.name
  | .float size => size.name
  | .decimal => "decimal"
  | .text kind => kind.name
  | .bytes kind => kind.name
  | .temporal kind => kind.name
  | .array => "array"
  | .enumeration style _ => style.converterName

abbrev Conversion := Except EvaluationFault Value

/-- A value that the converter does not take. -/
def mismatch (c : Converter) (v : Value) : Conversion := .error (.inconvertible c.name v)

/-- A value that no variant of the enumeration is. -/
def notVariant (e : EnumType) (v : Value) : Conversion := .error (.notVariant v e.name e.variants)

def readBool? (text : String) : Option Bool :=
  match Text.asciiLower (Text.trimString text) with
  | "true" | "1" | "y" | "yes" => some true
  | "false" | "0" | "n" | "no" => some false
  | _ => none

def toBool (v : Value) : Conversion :=
  match v with
  | .bool b => .ok (.bool b)
  | .int n => .ok (.bool (n != 0))
  | .string s =>
    match readBool? s with
    | some b => .ok (.bool b)
    | none => mismatch .boolean v
  | _ => mismatch .boolean v

/-- An integer in the range of the size. -/
def inRange (size : IntegerSize) (n : Int64) : Conversion :=
  if size.holds n.toInt then .ok (.int n) else .error (.outOfRange n size.name)

def toInteger (size : IntegerSize) (v : Value) : Conversion :=
  match v with
  | .bool b => inRange size (if b then 1 else 0)
  | v =>
    match v.asInt? with
    | some n => inRange size n
    | none => mismatch (.integer size) v

def toFloat (size : FloatSize) (v : Value) : Conversion :=
  match v.asFloat? with
  | some x => .ok (.float x)
  | none => mismatch (.float size) v

/-- Exact numbers travel as text, so that no digit is lost. -/
def toDecimal (v : Value) : Conversion :=
  match v with
  | .int n => .ok (.string (Value.intText n))
  | .float x => if x.isFinite then .ok (.string v.text) else mismatch .decimal v
  | .string s =>
    let trimmed := Text.trim s.toList
    if (Number.readFloat? trimmed).isSome then .ok (.string (.ofList trimmed)) else mismatch .decimal v
  | _ => mismatch .decimal v

def toText (kind : TextKind) (v : Value) : Conversion :=
  if v.isScalar then .ok (.string v.text) else mismatch (.text kind) v

def toByte (kind : BytesKind) (v : Value) : Conversion :=
  match v.asInt? with
  | some n => if 0 ≤ n.toInt ∧ n.toInt ≤ 255 then .ok (.int n) else mismatch (.bytes kind) v
  | none => mismatch (.bytes kind) v

def toByteItems (kind : BytesKind) : List Value → Except EvaluationFault (List Value)
  | [] => .ok []
  | v :: items => do
    let b ← toByte kind v
    let bs ← toByteItems kind items
    .ok (b :: bs)

/-- A text is bound as its UTF-8 encoding. -/
def toBytes (kind : BytesKind) (v : Value) : Conversion :=
  match v with
  | .string s => .ok (.list (s.toUTF8.toList.map fun b => .ofNat b.toNat))
  | .list items => (toByteItems kind items).map .list
  | _ => mismatch (.bytes kind) v

/-- The text of a date or time. Integers are milliseconds from the start of 1970. -/
def temporalText? (kind : TemporalKind) : Value → Option String
  | .int n =>
    (Moment.ofMilliseconds? n.toInt).map fun m =>
      match kind with
      | .date => m.date.text
      | .time => m.time.text
      | .timestamp => m.text
  | .string s =>
    let trimmed := Text.trim s.toList
    match kind with
    | .date => (Calendar.readMoment? trimmed).map (·.date.text)
    | .time => (Calendar.readTime? trimmed).map (·.text)
    | .timestamp => (Calendar.readMoment? trimmed).map (·.text)
  | _ => none

def toTemporal (kind : TemporalKind) (v : Value) : Conversion :=
  match temporalText? kind v with
  | some s => .ok (.string s)
  | none => mismatch (.temporal kind) v

def toArray (v : Value) : Conversion :=
  match v with
  | .list items => .ok (.list items)
  | _ => mismatch .array v

/-- The variant by its name. -/
def toVariant (e : EnumType) (v : Value) : Conversion :=
  match v with
  | .string s => if (e.ordinal? s).isSome then .ok (.string s) else notVariant e v
  | _ => notVariant e v

/-- The position of a variant. -/
def toOrdinal (e : EnumType) (v : Value) : Conversion :=
  match v with
  | .string s =>
    match e.ordinal? s with
    | some n => .ok (.ofNat n)
    | none => notVariant e v
  | _ => notVariant e v

/-- The variant at a position. -/
def ofOrdinal (e : EnumType) (v : Value) : Conversion :=
  match v.asInt?.bind fun n => if 0 ≤ n.toInt then e.variants[n.toInt.toNat]? else none with
  | some variant => .ok (.string variant)
  | none => notVariant e v

/-- What is bound for a value other than null. -/
def convert (c : Converter) (v : Value) : Conversion :=
  match c with
  | .object => .ok v
  | .boolean => toBool v
  | .integer size => toInteger size v
  | .float size => toFloat size v
  | .decimal => toDecimal v
  | .text kind => toText kind v
  | .bytes kind => toBytes kind v
  | .temporal kind => toTemporal kind v
  | .array => toArray v
  | .enumeration .name e => toVariant e v
  | .enumeration .ordinal e => toOrdinal e v

def toParameter (c : Converter) (v : Value) : Conversion := if v.isNull then .ok .null else c.convert v

/-- The value of what a column holds. Only positions of variants differ from what is bound. -/
def ofColumn (c : Converter) (v : Value) : Conversion :=
  match c with
  | .enumeration .ordinal e => if v.isNull then .ok .null else ofOrdinal e v
  | c => c.toParameter v

end Converter

end SqlTemplate
