import SqlTemplate.Catalog.Include
import SqlTemplate.Catalog.Load
import SqlTemplate.Text.Quoted

/-! # Compiled statements of a catalog -/

namespace SqlTemplate.Catalog

/-- Compiles a statement and keeps the result. -/
def compile (s : Statement) : Change Source := do
  let c ← get
  let body ← MonadExcept.ofExcept (c.expanded s)
  let source ← extracting (c.engine.compile body s.parameterType)
  modify fun c => { c with sources := Dict.insert s.id source c.sources }
  pure source

/-- The compiled statement of an id. An error is not kept. -/
def source (id : String) : Change Source := do
  let c ← get
  let s ← MonadExcept.ofExcept (c.statement id)
  match Dict.get? c.sources s.id with
  | some kept => pure kept
  | none => compile s

/-- The statement of an id for a parameter. -/
def bind (id : String) (parameter : Value) : Change BoundSql := do
  let found ← source id
  let c ← get
  extracting (c.engine.bind found parameter)

/-- Compiles the statements of the ids in order. The result holds those that fail. -/
def compileEach : List String → StateM Catalog (List (String × Error))
  | [] => pure []
  | id :: ids => do
    let result ← (source id).run
    let rest ← compileEach ids
    match result with
    | .ok _ => pure rest
    | .error e => pure ((id, e) :: rest)

def compileAll : StateM Catalog (List (String × Error)) := do
  let c ← get
  compileEach c.ids

/-- Whether two ids lead to one compiled statement. -/
def sharesSource (id other : String) : Change Bool := do
  let _ ← source id
  let _ ← source other
  let c ← get
  let s ← MonadExcept.ofExcept (c.statement id)
  let t ← MonadExcept.ofExcept (c.statement other)
  pure (s.id == t.id)

/-! ## Summary -/

/-- A record of named fields. -/
def recordText (name : String) (fields : List (String × String)) : String :=
  name ++ " \x7b " ++ ", ".intercalate (fields.map fun (key, value) => key ++ ": " ++ value) ++ " \x7d"

def optionText : Option String → String
  | some s => "Some(" ++ Text.quoted s ++ ")"
  | none => "None"

def boolText (b : Bool) : String := if b then "true" else "false"

def registryText (r : Registry) : String :=
  recordText "TypeHandlerRegistry"
    [("types", toString r.byType.length), ("handlers", toString r.byName.length),
      ("enum_handler", match r.enumStyle with | .name => "Name" | .ordinal => "Ordinal")]

def engineText (e : Engine) (r : Registry) : String :=
  recordText "Engine"
    [("registry", registryText r), ("database_id", optionText e.databaseId),
      ("placeholder", match e.markers with | .question => "Question" | .numbered => "Numbered"),
      ("shrink_whitespace", boolText e.shrink)]

/-- The settings of a catalog and how much it holds. -/
def summary (c : Catalog) : String :=
  recordText "Catalog"
    [("engine", engineText c.engine c.registry), ("fragments", toString c.fragments.length),
      ("statements", toString c.statements.length), ("compiled", toString c.sources.length)]

end SqlTemplate.Catalog
