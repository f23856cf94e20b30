import SqlTemplate.Engine

/-! # Catalogs

A catalog holds the statements and fragments of mapper documents. A statement is compiled when it is first asked for, and what
came of it is kept.
-/

namespace SqlTemplate

inductive StatementKind
  | select
  | insert
  | update
  | delete
  deriving DecidableEq

namespace StatementKind

def name : StatementKind → String
  | .select => "select"
  | .insert => "insert"
  | .update => "update"
  | .delete => "delete"

def read (text : String) : Except NameFault StatementKind :=
  match text with
  | "select" => .ok .select
  | "insert" => .ok .insert
  | "update" => .ok .update
  | "delete" => .ok .delete
  | other => .error (.statementKind other)

end StatementKind

/-- The statement that generates the key of another. -/
structure SelectKey where
  statementId : String
  property : Option String
  column : Option String
  /-- Whether it runs before the other. -/
  before : Bool

structure Statement where
  /-- The id with its namespace. -/
  id : String
  nameSpace : String
  kind : StatementKind
  databaseId : Option String
  parameterType : ValueType
  resultType : Option String
  resultMap : Option String
  selectKey : Option SelectKey
  /-- The element of the statement, its includes not expanded. -/
  body : Element

/-- The id without the namespace. -/
def Statement.shortId (s : Statement) : String :=
  match Text.after? (s.nameSpace.toList ++ ['.']) s.id.toList with
  | some rest => .ofList rest
  | none => s.id

/-- A part of a statement that others include. -/
structure Fragment where
  nameSpace : String
  databaseId : Option String
  element : Element

structure Catalog where
  engine : Engine
  registry : Registry
  fragments : Dict Fragment
  statements : Dict Statement
  /-- The statements compiled so far. -/
  sources : Dict Source

/-- A change of a catalog that may fail. What was done before an error stays. -/
abbrev Change := ExceptT Error (StateM Catalog)

namespace Catalog

def ofConfig (c : Config) : Except Error Catalog :=
  (Engine.ofConfig c).map fun engine => ⟨engine, .builtin c.enumStyle, [], [], []⟩

/-- Makes an id one of the namespace, unless it has one already. -/
def qualify (nameSpace id : String) : String :=
  let trimmed := Text.trim id.toList
  if '.' ∈ trimmed then .ofList trimmed else nameSpace ++ "." ++ String.ofList trimmed

/-- The statement of an id. A short id serves where only one namespace has it. -/
def statement (c : Catalog) (id : String) : Except Error Statement :=
  match Dict.get? c.statements id with
  | some s => .ok s
  | none =>
    match (Dict.values c.statements).filter fun s => s.shortId == id with
    | [] => .error (.unknownStatement id)
    | [s] => .ok s
    | candidates => .error (.ambiguousStatement id (candidates.map (·.id)))

def ids (c : Catalog) : List String := Dict.keys c.statements

def size (c : Catalog) : Nat := c.statements.length

def isEmpty (c : Catalog) : Bool := c.statements.isEmpty

/-- Runs a computation that looks converters up. -/
def extracting {α : Type} (x : Extraction α) : Change α := fun c =>
  let (result, registry) := x c.registry
  (result, { c with registry })

end Catalog

end SqlTemplate
