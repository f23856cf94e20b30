import SqlTemplate.Rendering.Context
import SqlTemplate.Template.Node
import SqlTemplate.Token

/-! # Loops

Every iteration binds its entry under names of its own and makes the placeholders of its text refer to them, so that the
values of all iterations can be bound to one statement.
-/

namespace SqlTemplate

/-- The name of a loop variable in one iteration. -/
def aliasName (name : String) (n : Nat) : String := "__frch_" ++ name ++ "_" ++ toString n

/-- What may follow a name that stands at the front of a placeholder. -/
def endsName : List Char → Bool
  | [] => true
  | c :: _ => c == '.' || c == ',' || c == ':' || c == '[' || Text.isGap c

/-- The content of a placeholder whose property begins with the name, under the alias. -/
def renameRoot? (n : Nat) (content name : String) : Option String :=
  match Text.after? name.toList (Text.trimStart content.toList) with
  | some rest => if endsName rest then some (aliasName name n ++ String.ofList rest) else none
  | none => none

/-- The content of a placeholder after renaming. The first name that fits counts. -/
def renameContent (names : List String) (n : Nat) (content : String) : String :=
  (names.findSome? (renameRoot? n content)).getD content

/-- A text whose placeholders refer to the aliases of one iteration. -/
def renamePlaceholders (names : List String) (n : Nat) (text : String) : String :=
  placeholder.edit (m := Id) (fun content => placeholder.enclose (renameContent names n content)) text

namespace Loop

/-- The names of a loop, the item first. -/
def names (l : Loop) : List String := l.item.toList ++ l.index.toList

/-- Positions and items of a list, keys and values of a map. -/
def entries? : Value → Option (List (Value × Value))
  | .list items => some (items.zipIdx.map fun (item, i) => (.ofNat i, item))
  | .map entries => some (entries.map fun (key, v) => (.string key, v))
  | _ => none

/-- Binds a loop variable under its name and under the alias of the iteration. -/
def bindEntry (n : Nat) (value : Value) : Option String → Render Unit
  | some name => do
    Render.bind (aliasName name n) value
    Render.bind name value
  | none => pure ()

/-- The texts of the iterations that write any. -/
def iterate (l : Loop) (body : Render Bool) : List (Value × Value) → Render (List String)
  | [] => pure []
  | (key, value) :: entries => do
    let n ← Render.next
    bindEntry n key l.index
    bindEntry n value l.item
    let text ← Render.capture body
    let trimmed := Text.trimString (renamePlaceholders l.names n text)
    let rest ← iterate l body entries
    pure (if trimmed.isEmpty then rest else trimmed :: rest)

/-- The texts of the iterations as they stand in the statement. -/
def join (l : Loop) (bodies : List String) : String :=
  l.opening.getD "" ++ (l.separator.getD "").intercalate bodies ++ l.closing.getD ""

/-- Renders the body for every entry. The loop writes one fragment, or none if no iteration wrote anything. -/
def renderEntries (l : Loop) (body : Render Bool) (entries : List (Value × Value)) : Render Bool := do
  let bodies ← Render.keeping l.names (l.iterate body entries)
  if bodies.isEmpty then pure false
  else
    Render.append (l.join bodies)
    pure true

/-- A collection that is null or not there counts as empty. -/
def render (l : Loop) (body : Render Bool) : Render Bool := do
  match ← Render.eval? l.collection with
  | none | some .null => pure false
  | some v =>
    match entries? v with
    | none => throw (.evaluation (.notIterable l.collection v))
    | some [] => pure false
    | some entries => l.renderEntries body entries

end Loop

end SqlTemplate
