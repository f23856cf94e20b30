import SqlTemplate.Conversion.Registry
import SqlTemplate.Mapping.Basic
import SqlTemplate.Placeholder
import SqlTemplate.Typing.Aliases

/-! # Extracting mappings

Every placeholder of a rendered statement becomes a marker and a mapping.
-/

namespace SqlTemplate

/-- A computation that looks converters up and may fail. What it looked up stays so after an error. -/
abbrev Extraction := ExceptT Error Lookup

/-- What mappings are made from, besides the text. -/
structure Scope where
  aliases : Aliases
  /-- The type of the parameter. -/
  declared : ValueType
  /-- The bindings of the rendering. -/
  bindings : Bindings

namespace Scope

def invalid {α : Type} (content : String) (fault : PlaceholderFault) : Except Error α :=
  .error (.compile (.invalidPlaceholder content fault))

/-- The SQL type of a placeholder. An option counts before the shorthand. -/
def sqlTypeOf (content : String) (p : Placeholder) : Except Error (Option SqlType) :=
  match (p.option? "jdbcType").or p.sqlType with
  | none => .ok none
  | some name =>
    match SqlType.read name with
    | .ok s => .ok (some s)
    | .error fault => invalid content (.misnamed fault)

/-- The type of a property that is neither bound nor the whole parameter. -/
def propertyType (s : Scope) (content : String) (p : Placeholder) (sqlType : Option SqlType) :
    Except Error ValueType :=
  if sqlType = some .cursor then
    if (p.option? "resultMap").isNone then invalid content .noResultMap else .ok .cursor
  else if p.property.isEmpty || s.declared = .map || s.declared = .object then .ok .object
  else .ok ((s.declared.select? (Path.parse p.property).steps).getD .object)

/-- The type of the value, as far as it is known. A binding has the type of its value. A parameter whose type has a converter is
bound as a whole. -/
def typeOf (s : Scope) (content : String) (p : Placeholder) (sqlType : Option SqlType) : Extraction ValueType := do
  let path := Path.parse p.property
  match Dict.get? s.bindings path.root with
  | some bound => pure (((bound.select? path.rest).map Value.type).getD .object)
  | none =>
    let whole ← if s.declared = .list then pure false else Lookup.has s.declared
    if whole then pure s.declared else MonadExcept.ofExcept (s.propertyType content p sqlType)

/-- The type that a placeholder names, or else the one found. -/
def declaredType (s : Scope) (content : String) (p : Placeholder) (found : ValueType) : Except Error ValueType :=
  match p.option? "javaType" with
  | none => .ok found
  | some name =>
    match s.aliases.resolve? name with
    | some t => .ok t
    | none => invalid content (.unknownType name)

def modeOf (content : String) (p : Placeholder) : Except Error ParameterMode :=
  match p.option? "mode" with
  | none => .ok .input
  | some name =>
    match ParameterMode.read name with
    | .ok mode => .ok mode
    | .error fault => invalid content (.misnamed fault)

def scaleOf (content : String) (p : Placeholder) : Except Error (Option Nat) :=
  match p.option? "numericScale" with
  | none => .ok none
  | some text =>
    match Number.readNat? text.toList with
    | some n => if Number.fits32 n then .ok (some n) else invalid content (.badScale text)
    | none => invalid content (.badScale text)

/-- The name of the converter. A cursor has none, and another type must be known. -/
def converterOf (p : Placeholder) (t : ValueType) (sqlType : Option SqlType) : Extraction (Option String) := do
  let r ← get
  match p.option? "typeHandler" with
  | some name =>
    match r.resolve? name t with
    | some c => pure (some c.name)
    | none => throw (.noHandler p.property r.names)
  | none =>
    if t = .cursor then pure none
    else if r.knows t then
      let c ← Lookup.converter? t sqlType
      pure (c.map Converter.name)
    else throw (.noHandler p.property (r.candidates t))

def mapping (s : Scope) (content : String) : Extraction ParameterMapping := do
  let p ← MonadExcept.ofExcept ((Placeholder.parse content).mapError Error.compile)
  let sqlType ← MonadExcept.ofExcept (sqlTypeOf content p)
  let found ← s.typeOf content p sqlType
  let t ← MonadExcept.ofExcept (s.declaredType content p found)
  let mode ← MonadExcept.ofExcept (modeOf content p)
  let scale ← MonadExcept.ofExcept (scaleOf content p)
  let converter ← converterOf p t sqlType
  pure ⟨p.property, t, sqlType, p.option? "jdbcTypeName", mode, scale, p.option? "resultMap", converter⟩

/-- The mappings of placeholders in order. The first that is rejected gives the error. -/
def mappings (s : Scope) : List String → Extraction (List ParameterMapping)
  | [] => pure []
  | content :: contents => do
    let m ← s.mapping content
    let rest ← s.mappings contents
    pure (m :: rest)

def extract (s : Scope) (style : MarkerStyle) (sql : String) : Extraction MarkedSql := do
  let ms ← s.mappings (placeholder.tokens sql)
  pure ⟨style.mark sql, ms⟩

end Scope

end SqlTemplate
