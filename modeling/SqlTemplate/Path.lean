import SqlTemplate.Text.Letter
import SqlTemplate.Text.Search
import SqlTemplate.Value.Basic

/-! # Property paths

A path such as `orders[0].item.name` is a name followed by steps. A text that is no path is one property
with the whole text for its name.
-/

namespace SqlTemplate

inductive Step
  | property (name : String)
  | index (key : String)
  deriving DecidableEq

namespace Step

def name : Step → String
  | .property name => name
  | .index key => key

/-- The steps that make up the whole of a text: `.name` and `[key]`. -/
def readAll? (cs : List Char) : Option (List Step) :=
  match cs with
  | [] => some []
  | '.' :: cs =>
    let name := cs.takeWhile Text.isNameChar
    if name.isEmpty then none
    else (readAll? (cs.dropWhile Text.isNameChar)).map (.property (.ofList name) :: ·)
  | '[' :: cs =>
    match _h : Text.breakOn [']'] cs with
    | some (key, rest) => (readAll? rest).map (.index (.ofList (Text.trim key)) :: ·)
    | none => none
  | _ => none
termination_by cs.length
decreasing_by
  · have := (List.dropWhile_suffix Text.isNameChar (l := cs)).length_le
    simp only [List.length_cons]
    omega
  · have := Text.length_of_breakOn _h
    simp only [List.length_cons, List.length_nil] at this ⊢
    omega

end Step

/-- A path is never empty: what stands first is its root. -/
structure Path where
  text : String
  first : Step
  rest : List Step
  deriving DecidableEq

namespace Path

/-- The name that look-ups of bindings go by. -/
def root (p : Path) : String := p.first.name

def steps (p : Path) : List Step := p.first :: p.rest

/-- The steps of a text that begins with a name, the name first. -/
def readSteps? (cs : List Char) : Option (Step × List Step) :=
  let name := cs.takeWhile Text.isNameChar
  if name.isEmpty then none
  else (Step.readAll? (cs.dropWhile Text.isNameChar)).map (.property (.ofList name), ·)

def parse (text : String) : Path :=
  let trimmed := Text.trim text.toList
  let whole := String.ofList trimmed
  match readSteps? trimmed with
  | some (first, rest) => ⟨whole, first, rest⟩
  | none => ⟨whole, .property whole, []⟩

end Path

namespace Value

def isQuote (c : Char) : Bool := c == '\'' || c == '"'

/-- An index is written with or without quotes. -/
def unquote (key : String) : String :=
  .ofList (((key.toList.dropWhile isQuote).reverse.dropWhile isQuote).reverse)

/-- One step into a value. Lists take only positions. -/
def step? (v : Value) : Step → Option Value
  | .property name => v.property? name
  | .index key =>
    match v with
    | .list items => (Number.readInt64? (unquote key).toList).bind (item? items)
    | v => v.index? (.string (unquote key))

/-- The value at the end of the steps. -/
def select? (v : Value) : List Step → Option Value
  | [] => some v
  | s :: steps => (v.step? s).bind (·.select? steps)

end Value

end SqlTemplate
