import SqlTemplate.Config.Toml
import SqlTemplate.Conversion.Converter
import SqlTemplate.Error
import SqlTemplate.Mapping.Basic
import SqlTemplate.Typing.Aliases

/-! # Configuration -/

namespace SqlTemplate

structure Config where
  databaseId : Option String
  markers : MarkerStyle
  enumStyle : EnumStyle
  /-- Whether runs of blanks in a statement become one space. -/
  shrink : Bool
  /-- The substitutions known to every mapper. -/
  substitutions : Dict String
  types : Dict (Dict String)
  enums : Dict (List String)

namespace Config

def initial : Config := ⟨none, .question, .name, false, [], [], []⟩

def aliases (c : Config) : Except Error Aliases :=
  (Aliases.ofDeclarations c.enums c.types).mapError fun names => .config (.unresolvedRecords names)

/-! ## Reading -/

def stringOf? : Toml → Option String
  | .string s => some s
  | _ => none

def boolOf? : Toml → Option Bool
  | .bool b => some b
  | _ => none

def markersOf? : Toml → Option MarkerStyle
  | .string "question" => some .question
  | .string "numbered" => some .numbered
  | _ => none

def enumStyleOf? : Toml → Option EnumStyle
  | .string "name" => some .name
  | .string "ordinal" => some .ordinal
  | _ => none

def stringsOf? : Toml → Option (List String)
  | .array items => items.mapM stringOf?
  | _ => none

def tableOf? {α : Type} (f : Toml → Option α) : Toml → Option (Dict α)
  | .table entries => entries.mapM fun (k, v) => (f v).map (k, ·)
  | _ => none

/-- The value of a key, which counts as the default if it is not there. -/
def field? {α : Type} (entries : Dict Toml) (key : String) (f : Toml → Option α) (default : α) : Option α :=
  match Dict.get? entries key with
  | some v => f v
  | none => some default

/-- The configuration of a file. Unknown keys do not matter. -/
def ofToml? (text : String) : Option Config := do
  let entries ← Toml.parse? text
  let databaseId ← field? entries "database_id" (fun v => (stringOf? v).map some) none
  let markers ← field? entries "placeholder" markersOf? .question
  let enumStyle ← field? entries "default_enum_handler" enumStyleOf? .name
  let shrink ← field? entries "shrink_whitespace" boolOf? false
  let substitutions ← field? entries "variables" (tableOf? stringOf?) []
  let types ← field? entries "types" (tableOf? (tableOf? stringOf?)) []
  let enums ← field? entries "enums" (tableOf? stringsOf?) []
  some ⟨databaseId, markers, enumStyle, shrink, substitutions, types, enums⟩

end Config

end SqlTemplate
