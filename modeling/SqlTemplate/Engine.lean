import SqlTemplate.Config.Basic
import SqlTemplate.Mapping.Convert
import SqlTemplate.Rendering.Apply
import SqlTemplate.Template.Build

/-! # The engine

The engine compiles statements and renders them for parameters. Converters are kept in a registry apart from it, since a
look-up may add to them.
-/

namespace SqlTemplate

structure Engine where
  aliases : Aliases
  databaseId : Option String
  markers : MarkerStyle
  shrink : Bool
  substitutions : Dict String

/-- A compiled statement. -/
inductive Source
  /-- The same for every parameter, and so extracted already. -/
  | fixed (sql : MarkedSql)
  | dynamic (root : Node) (type : ValueType)

namespace Engine

def ofConfig (c : Config) : Except Error Engine :=
  c.aliases.map fun aliases => ⟨aliases, c.databaseId, c.markers, c.shrink, c.substitutions⟩

/-- The type of a parameter by its alias. -/
def resolveType (e : Engine) (text : String) : Except Error ValueType :=
  match e.aliases.resolve? text with
  | some t => .ok t
  | none => .error (.noHandler text [])

/-- The statement as it is given out. -/
def finish (e : Engine) (sql : String) : String := if e.shrink then Text.shrinkString sql else sql

/-- What a template writes for a parameter, and the bindings at its end. -/
def render (e : Engine) (root : Node) (parameter : Value) : Except Error (String × Bindings) :=
  let (result, c) := root.render (Context.initial parameter e.databaseId)
  result.map fun _ => (e.finish c.sql, c.bindings)

def extract (e : Engine) (sql : String) (declared : ValueType) (bindings : Bindings) : Extraction MarkedSql :=
  Scope.extract ⟨e.aliases, declared, bindings⟩ e.markers sql

/-- Compiles a statement. One that no parameter changes is rendered and extracted at once. -/
def compile (e : Engine) (element : Element) (type : ValueType) : Extraction Source := do
  let t ← MonadExcept.ofExcept ((Template.ofElement element).mapError Error.compile)
  if t.dynamic then pure (.dynamic t.root type)
  else
    let (sql, _) ← MonadExcept.ofExcept (e.render t.root .null)
    let marked ← e.extract sql type []
    pure (.fixed marked)

/-- A script is a document, or else plain text in which the variables are substituted. -/
def scriptElement (e : Engine) (script : String) : Except Error Element :=
  if (Text.after? "<script".toList (Text.trimStart script.toList)).isSome then
    (Markup.parse script).mapError fun err => .compile (.markup err)
  else .ok ⟨"script", [], [.text (substitution.substitute (Dict.get? e.substitutions) script)]⟩

def compileScript (e : Engine) (script : String) (type : ValueType) : Extraction Source := do
  let element ← MonadExcept.ofExcept (e.scriptElement script)
  e.compile element type

/-- The type that placeholders are extracted with. A parameter of unknown type has that of its value. -/
def declaredType (type : ValueType) (parameter : Value) : ValueType :=
  if type = .object then parameter.type else type

/-- The statement for a parameter. -/
def bind (e : Engine) (source : Source) (parameter : Value) : Extraction BoundSql :=
  match source with
  | .fixed marked => pure ⟨marked, []⟩
  | .dynamic root type => do
    let (sql, bindings) ← MonadExcept.ofExcept (e.render root parameter)
    let marked ← e.extract sql (declaredType type parameter) bindings
    pure ⟨marked, bindings⟩

end Engine

end SqlTemplate
