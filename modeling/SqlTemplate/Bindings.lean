import SqlTemplate.Value.Basic

/-! # Bindings

The names that a rendering knows, the parameter and the database id among them.
-/

namespace SqlTemplate

abbrev Bindings := Dict Value

/-- The binding of the whole parameter. -/
def parameterKey : String := "_parameter"

/-- The binding of the configured database id, or null. -/
def databaseIdKey : String := "_databaseId"

/-- The names of a parameter that is a list. -/
def listKeys : List String := ["list", "collection", "array"]

/-- A path that leads nowhere, and the names that were visible then. -/
structure Unresolved where
  path : String
  visible : List String

def Unresolved.message (u : Unresolved) : String :=
  "Cannot resolve '" ++ u.path ++ "'. Available bindings: [" ++ ", ".intercalate u.visible ++ "]"

namespace Bindings

/-- The bindings a rendering begins with. -/
def initial (parameter : Value) (databaseId : Option String) : Bindings :=
  Dict.ofList [(parameterKey, parameter), (databaseIdKey, (databaseId.map Value.string).getD .null)]

def parameter (b : Bindings) : Value := (Dict.get? b parameterKey).getD .null

/-- The names that can be looked up, in order. -/
def visible (b : Bindings) : List String :=
  sortedNames <| Dict.keys b ++
    match parameter b with
    | .map entries => Dict.keys entries
    | .list _ => listKeys
    | _ => []

def unresolved (b : Bindings) (path : String) : Unresolved := ⟨path, visible b⟩

/-- A name stands for its binding, or else for a property of the parameter. What a map lacks is null, and so is everything when the
parameter is null. -/
def lookup (b : Bindings) (name : String) : Except Unresolved Value :=
  match Dict.get? b name with
  | some v => .ok v
  | none =>
    match parameter b with
    | .null => .ok .null
    | .map entries => .ok ((Dict.get? entries name).getD .null)
    | .list items => if name ∈ listKeys then .ok (.list items) else .error (unresolved b name)
    | _ => .error (unresolved b name)

end Bindings

end SqlTemplate
