import SqlTemplate.Error
import SqlTemplate.Text.Ascii
import SqlTemplate.Text.Blank

/-! # SQL types and parameter modes

The types that a database knows and the directions of a bind parameter. Their names are read in any ASCII case and with blanks
around them.
-/

namespace SqlTemplate

inductive SqlType
  | array
  | bit
  | tinyInt
  | smallInt
  | integer
  | bigInt
  | float
  | real
  | double
  | numeric
  | decimal
  | char
  | varchar
  | longVarchar
  | date
  | time
  | timestamp
  | binary
  | varBinary
  | longVarBinary
  | null
  | other
  | blob
  | clob
  | boolean
  | cursor
  | undefined
  | nVarchar
  | nChar
  | nClob
  | struct
  | sqlXml
  deriving DecidableEq

namespace SqlType

def all : List SqlType :=
  [.array, .bit, .tinyInt, .smallInt, .integer, .bigInt, .float, .real, .double, .numeric, .decimal, .char, .varchar,
    .longVarchar, .date, .time, .timestamp, .binary, .varBinary, .longVarBinary, .null, .other, .blob, .clob,
    .boolean, .cursor, .undefined, .nVarchar, .nChar, .nClob, .struct, .sqlXml]

def name : SqlType → String
  | .array => "ARRAY"
  | .bit => "BIT"
  | .tinyInt => "TINYINT"
  | .smallInt => "SMALLINT"
  | .integer => "INTEGER"
  | .bigInt => "BIGINT"
  | .float => "FLOAT"
  | .real => "REAL"
  | .double => "DOUBLE"
  | .numeric => "NUMERIC"
  | .decimal => "DECIMAL"
  | .char => "CHAR"
  | .varchar => "VARCHAR"
  | .longVarchar => "LONGVARCHAR"
  | .date => "DATE"
  | .time => "TIME"
  | .timestamp => "TIMESTAMP"
  | .binary => "BINARY"
  | .varBinary => "VARBINARY"
  | .longVarBinary => "LONGVARBINARY"
  | .null => "NULL"
  | .other => "OTHER"
  | .blob => "BLOB"
  | .clob => "CLOB"
  | .boolean => "BOOLEAN"
  | .cursor => "CURSOR"
  | .undefined => "UNDEFINED"
  | .nVarchar => "NVARCHAR"
  | .nChar => "NCHAR"
  | .nClob => "NCLOB"
  | .struct => "STRUCT"
  | .sqlXml => "SQLXML"

def read (text : String) : Except NameFault SqlType :=
  let wanted := Text.trimString text
  match all.find? fun t => Text.sameName t.name wanted with
  | some t => .ok t
  | none => .error (.sqlType wanted)

end SqlType

/-- The direction of a bind parameter. -/
inductive ParameterMode
  | input
  | output
  | both
  deriving DecidableEq

namespace ParameterMode

def name : ParameterMode → String
  | .input => "IN"
  | .output => "OUT"
  | .both => "INOUT"

def read (text : String) : Except NameFault ParameterMode :=
  match Text.asciiUpper (Text.trimString text) with
  | "IN" => .ok .input
  | "OUT" => .ok .output
  | "INOUT" => .ok .both
  | other => .error (.mode other)

end ParameterMode

end SqlTemplate
