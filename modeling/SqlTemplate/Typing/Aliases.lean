import SqlTemplate.Typing.ValueType

/-! # Type aliases

The names that stand for types: those of declared enumerations and records, and the built-in ones.
-/

namespace SqlTemplate

/-- Declared types by their names in lower case. -/
abbrev Aliases := Dict ValueType

/-- A record as it is declared: a name, and the alias of every property. -/
abbrev RecordDeclaration := String × Dict String

namespace Aliases

/-- A declared type hides a built-in one of the same name. -/
def resolve? (a : Aliases) (text : String) : Option ValueType :=
  match Dict.get? a (Text.asciiLower (Text.trimString text)) with
  | some t => some t
  | none => (BuiltinType.read? text).map .builtin

def register (a : Aliases) (t : ValueType) : Aliases := Dict.insert (Text.asciiLower t.name) t a

/-- The properties with their types, if all of them are known. -/
def resolveAll? (a : Aliases) : List (String × String) → Option (List (String × ValueType))
  | [] => some []
  | (name, text) :: properties => do
    let t ← a.resolve? text
    let rest ← resolveAll? a properties
    some ((name, t) :: rest)

/-- Registers in order the records whose properties are known by then. The others are left. -/
def pass (a : Aliases) : List RecordDeclaration → Aliases × List RecordDeclaration
  | [] => (a, [])
  | (name, properties) :: records =>
    match a.resolveAll? properties with
    | some ps => pass (a.register (.record name ps)) records
    | none =>
      let (b, rest) := pass a records
      (b, (name, properties) :: rest)

/-- Passes over the records until none is left, or until a pass leaves all of them. -/
def registerRecords (a : Aliases) (records : List RecordDeclaration) : Except (List String) Aliases :=
  if records.isEmpty then .ok a
  else
    let (b, rest) := pass a records
    if rest.length < records.length then registerRecords b rest else .error (rest.map (·.1))
termination_by records.length

/-- The aliases of declared types. On failure, the records that cannot be resolved. -/
def ofDeclarations (enums : Dict (List String)) (records : Dict (Dict String)) : Except (List String) Aliases :=
  registerRecords (enums.foldl (fun a (name, variants) => a.register (.enumeration ⟨name, variants⟩)) []) records

end Aliases

end SqlTemplate
