import SqlTemplate.Bindings
import SqlTemplate.Path
import SqlTemplate.Token
import SqlTemplate.Typing.SqlType
import SqlTemplate.Typing.ValueType

/-! # Parameter mappings

A rendered statement has a marker for every placeholder and a mapping for every marker. The mapping says which value is bound
and how.
-/

namespace SqlTemplate

structure ParameterMapping where
  /-- The path of the value. -/
  property : String
  type : ValueType
  sqlType : Option SqlType
  sqlTypeName : Option String
  mode : ParameterMode
  scale : Option Nat
  resultMap : Option String
  /-- The name of the converter. Without one the value chooses. -/
  converter : Option String
  deriving DecidableEq

/-- A statement whose markers are written, with its mappings in the order of the markers. -/
structure MarkedSql where
  sql : String
  mappings : List ParameterMapping
  deriving DecidableEq

/-- A statement rendered for a parameter, with the bindings of the rendering. -/
structure BoundSql extends MarkedSql where
  additional : Bindings

/-! ## Markers -/

inductive MarkerStyle
  /-- The marker `?` for every value. -/
  | question
  /-- The markers `$1`, `$2` and so on. -/
  | numbered
  deriving DecidableEq

/-- The marker at a position that counts from one. -/
def MarkerStyle.marker : MarkerStyle → Nat → String
  | .question, _ => "?"
  | .numbered, position => "$" ++ toString position

/-- The pieces of a text with markers for the tokens, the first of them at a position. -/
def MarkerStyle.markFrom (style : MarkerStyle) : Nat → List Piece → List String
  | _, [] => []
  | n, .text s :: pieces => s :: style.markFrom n pieces
  | n, .token _ :: pieces => style.marker n :: style.markFrom (n + 1) pieces

/-- The text with a marker for every placeholder. -/
def MarkerStyle.mark (style : MarkerStyle) (text : String) : String :=
  String.join (style.markFrom 1 (placeholder.pieces .drop text))

/-! ## Values -/

namespace BoundSql

/-- Whether the root of a path is bound. -/
def hasAdditional (b : BoundSql) (name : String) : Bool := Dict.contains b.additional (Path.parse name).root

def additional? (b : BoundSql) (name : String) : Option Value :=
  let path := Path.parse name
  (Dict.get? b.additional path.root).bind (·.select? path.rest)

/-- The value of a path. Bindings come first. A parameter that is null or a scalar stands for every other path, and a list for its own
names. -/
def find? (b : BoundSql) (parameter : Value) (path : Path) : Option Value :=
  match Dict.get? b.additional path.root with
  | some bound => bound.select? path.rest
  | none =>
    match parameter with
    | .list items =>
      if path.root ∈ listKeys then (Value.list items).select? path.rest else (Value.list items).select? path.steps
    | .map entries => (Value.map entries).select? path.steps
    | scalar => some scalar

/-- The names that a path could have begun with. -/
def available (b : BoundSql) (parameter : Value) : List String :=
  sortedNames <| Dict.keys b.additional ++
    match parameter with
    | .map entries => Dict.keys entries
    | _ => []

/-- The value that a mapping binds. An output has none. -/
def resolve (b : BoundSql) (parameter : Value) (m : ParameterMapping) : Except Unresolved Value :=
  if m.mode = .output then .ok .null
  else
    match b.find? parameter (Path.parse m.property) with
    | some v => .ok v
    | none => .error ⟨m.property, b.available parameter⟩

def resolveEach (b : BoundSql) (parameter : Value) : List ParameterMapping → Except Unresolved (List Value)
  | [] => .ok []
  | m :: mappings => do
    let v ← b.resolve parameter m
    let rest ← b.resolveEach parameter mappings
    .ok (v :: rest)

/-- The values in the order of the markers. -/
def resolveAll (b : BoundSql) (parameter : Value) : Except Unresolved (List Value) :=
  b.resolveEach parameter b.mappings

end BoundSql

end SqlTemplate
