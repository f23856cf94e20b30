import SqlTemplate.Mapping.Extract

/-! # Converting bound values -/

namespace SqlTemplate

namespace ParameterMapping

/-- The converter that the mapping names. The one for any value leaves the choice to the others. -/
def named? (m : ParameterMapping) (r : Registry) : Option Converter :=
  match m.converter with
  | some name => if name = Converter.object.name then none else r.resolve? name m.type
  | none => none

/-- The converter of the declared type. -/
def declared? (m : ParameterMapping) : Lookup (Option Converter) :=
  if m.type = .object then pure none else Lookup.converter? m.type m.sqlType

/-- The converter of the value's own type. -/
def inherent? (m : ParameterMapping) (v : Value) : Lookup (Option Converter) := do
  let c ← Lookup.converter? v.type m.sqlType
  pure (c.filter fun c => c.name != Converter.object.name)

/-- The converter for a value: the one that is named, that of the declared type, that of the value, that of the SQL type. -/
def converter? (m : ParameterMapping) (v : Value) : Lookup (Option Converter) := do
  let r ← get
  match m.named? r with
  | some c => pure (some c)
  | none =>
    match ← m.declared? with
    | some c => pure (some c)
    | none =>
      match ← m.inherent? v with
      | some c => pure (some c)
      | none => pure (m.sqlType.bind r.forSqlType?)

end ParameterMapping

namespace BoundSql

def convert (m : ParameterMapping) (v : Value) : Extraction Value := do
  if v.isNull then pure .null
  else
    match ← m.converter? v with
    | some c => MonadExcept.ofExcept ((c.toParameter v).mapError Error.evaluation)
    | none => pure v

def convertEach (b : BoundSql) (parameter : Value) : List ParameterMapping → Extraction (List Value)
  | [] => pure []
  | m :: mappings => do
    let v ← MonadExcept.ofExcept ((b.resolve parameter m).mapError Error.unresolved)
    let converted ← convert m v
    let rest ← b.convertEach parameter mappings
    pure (converted :: rest)

/-- The values in the order of the markers, as they are bound. -/
def convertAll (b : BoundSql) (parameter : Value) : Extraction (List Value) := b.convertEach parameter b.mappings

end BoundSql

end SqlTemplate
