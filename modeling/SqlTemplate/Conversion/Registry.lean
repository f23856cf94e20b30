import SqlTemplate.Conversion.Converter
import SqlTemplate.Typing.SqlType

/-! # The registry of converters

Converters are found by the type of a value, by a SQL type or by name. An enumeration that has no converter when one is looked
up gets the configured one.
-/

namespace SqlTemplate

/-- Replaces the value of a key that is there and adds one that is not. -/
def assign {α β : Type} [DecidableEq α] (key : α) (value : β) : List (α × β) → List (α × β)
  | [] => [(key, value)]
  | (k, v) :: rest => if k = key then (key, value) :: rest else (k, v) :: assign key value rest

/-- The converters of one type, one for each SQL type and one for all others. -/
abbrev Choices := List (Option SqlType × Converter)

structure Registry where
  byType : List (ValueType × Choices)
  bySqlType : List (SqlType × Converter)
  byName : Dict Converter
  enumStyle : EnumStyle

namespace Registry

def empty (style : EnumStyle) : Registry := ⟨[], [], [], style⟩

/-- The first converter of a name keeps it. -/
def named (c : Converter) (r : Registry) : Registry :=
  if Dict.contains r.byName c.name then r else { r with byName := Dict.insert c.name c r.byName }

/-- Registers a converter for a type, or for the type together with a SQL type. -/
def register (t : ValueType) (s : Option SqlType) (c : Converter) (r : Registry) : Registry :=
  let r := r.named c
  { r with byType := assign t (assign s c ((r.byType.lookup t).getD [])) r.byType }

/-- Registers a converter for where only the SQL type is known. -/
def registerSqlType (s : SqlType) (c : Converter) (r : Registry) : Registry :=
  let r := r.named c
  { r with bySqlType := assign s c r.bySqlType }

/-! ## Built-in converters -/

/-- The built-in converters of the built-in types. -/
def builtinTypes : List (BuiltinType × Option SqlType × Converter) :=
  [(.boolean, none, .boolean), (.boolean, some .bit, .boolean),
    (.byte, none, .integer .byte), (.short, none, .integer .short), (.integer, none, .integer .integer),
    (.long, none, .integer .long), (.float, none, .float .float), (.double, none, .float .double),
    (.decimal, none, .decimal),
    (.string, none, .text .string), (.string, some .char, .text .string), (.string, some .varchar, .text .string),
    (.string, some .clob, .text .clob), (.string, some .nVarchar, .text .nString),
    (.string, some .nChar, .text .nString), (.string, some .nClob, .text .nClob),
    (.string, some .sqlXml, .text .sqlXml),
    (.bytes, none, .bytes .bytes), (.bytes, some .blob, .bytes .blob),
    (.date, none, .temporal .date), (.time, none, .temporal .time), (.timestamp, none, .temporal .timestamp),
    (.timestamp, some .date, .temporal .date), (.timestamp, some .time, .temporal .time),
    (.list, none, .array), (.object, none, .object)]

/-- The built-in converters of the SQL types. -/
def builtinSqlTypes : List (SqlType × Converter) :=
  [(.boolean, .boolean), (.bit, .boolean), (.tinyInt, .integer .byte), (.smallInt, .integer .short),
    (.integer, .integer .integer), (.bigInt, .integer .long), (.float, .float .float), (.real, .float .float),
    (.double, .float .double), (.decimal, .decimal), (.numeric, .decimal), (.char, .text .string),
    (.varchar, .text .string), (.longVarchar, .text .string), (.clob, .text .clob), (.nVarchar, .text .nString),
    (.nChar, .text .nString), (.nClob, .text .nClob), (.sqlXml, .text .sqlXml), (.binary, .bytes .bytes),
    (.varBinary, .bytes .bytes), (.longVarBinary, .bytes .bytes), (.blob, .bytes .blob), (.date, .temporal .date),
    (.time, .temporal .time), (.timestamp, .temporal .timestamp), (.array, .array), (.other, .object)]

/-- The registry with the built-in converters. -/
def builtin (style : EnumStyle) : Registry :=
  let r := builtinTypes.foldl (fun r (t, s, c) => r.register (.builtin t) s c) (empty style)
  builtinSqlTypes.foldl (fun r (s, c) => r.registerSqlType s c) r

/-! ## Looking up -/

/-- The registry after a look-up of the type. -/
def touch (t : ValueType) (r : Registry) : Registry :=
  match t with
  | .enumeration e =>
    if (r.byType.lookup t).isSome then r
    else { r with byType := assign t [(none, .enumeration r.enumStyle e)] r.byType }
  | _ => r

/-- The one converter that all choices name. -/
def sole? : Choices → Option Converter
  | [] => none
  | (_, c) :: choices => if choices.all fun (_, d) => d.name == c.name then some c else none

/-- The converter for the SQL type, or else the one for all others, or else the only one. -/
def choose? (choices : Choices) (s : Option SqlType) : Option Converter :=
  let exact := match s with
    | some s => choices.lookup (some s)
    | none => none
  exact <|> choices.lookup none <|> sole? choices

/-- The converter for a type, as far as the registry holds one by now. -/
def find? (r : Registry) (t : ValueType) (s : Option SqlType) : Option Converter :=
  (r.byType.lookup t).bind fun choices => choose? choices s

/-- Whether anything is registered for the type. -/
def knows (r : Registry) (t : ValueType) : Bool := t.isEnumeration || (r.byType.lookup t).isSome

def forSqlType? (r : Registry) (s : SqlType) : Option Converter := r.bySqlType.lookup s

def named? (r : Registry) (name : String) : Option Converter := Dict.get? r.byName name

/-- The converter that a name stands for at a type. Those of enumerations are made for the enumeration. -/
def resolve? (r : Registry) (name : String) (t : ValueType) : Option Converter :=
  match r.named? name with
  | some c => some c
  | none =>
    match t with
    | .enumeration e =>
      if name = EnumStyle.name.converterName then some (.enumeration .name e)
      else if name = EnumStyle.ordinal.converterName then some (.enumeration .ordinal e)
      else none
    | _ => none

/-- The names of all converters in order. -/
def names (r : Registry) : List String :=
  sortedNames (Dict.keys r.byName ++ [EnumStyle.name.converterName, EnumStyle.ordinal.converterName])

/-- The names of the converters of a type in order. -/
def candidates (r : Registry) (t : ValueType) : List String :=
  sortedNames (((r.byType.lookup t).getD []).map fun (_, c) => c.name)

end Registry

/-- A computation that looks converters up. -/
abbrev Lookup := StateM Registry

namespace Lookup

def converter? (t : ValueType) (s : Option SqlType) : Lookup (Option Converter) := do
  modify (·.touch t)
  let r ← get
  pure (r.find? t s)

def has (t : ValueType) : Lookup Bool := do
  let c ← converter? t none
  pure c.isSome

end Lookup

end SqlTemplate
