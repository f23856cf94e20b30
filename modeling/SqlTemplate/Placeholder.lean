import SqlTemplate.Error
import SqlTemplate.Text.Blank
import SqlTemplate.Text.Search

/-! # Placeholder contents

Between its delimiters a placeholder names a property and may add a type after a colon and options after commas, as in
`price:NUMERIC, numericScale=2`.
-/

namespace SqlTemplate

structure Placeholder where
  property : String
  /-- The type after the colon. -/
  sqlType : Option String
  /-- The options in the order they were written. -/
  options : List (String × String)

namespace Placeholder

/-- The last of several options with one key counts. -/
def option? (p : Placeholder) (key : String) : Option String := p.options.reverse.lookup key

/-- The keys that an option may have. -/
def optionKeys : List String :=
  ["property", "javaType", "jdbcType", "mode", "numericScale", "resultMap", "typeHandler", "jdbcTypeName"]

/-- One option. A property given as an option changes nothing. -/
def readOption (content : String) (option : List Char) : Except CompileError (Option (String × String)) :=
  match Text.breakOn ['='] option with
  | none => .error (.invalidPlaceholder content (.notAssignment (.ofList (Text.trim option))))
  | some (k, value) =>
    let key := String.ofList (Text.trim k)
    if key = "expression" then .error (.unsupportedExpression content)
    else if key ∉ optionKeys then .error (.invalidPlaceholderKey key content)
    else if key = "property" then .ok none
    else .ok (some (key, .ofList (Text.trim value)))

/-- The options in order. The first that is wrong gives the error. -/
def readOptions (content : String) : List (List Char) → Except CompileError (List (String × String))
  | [] => .ok []
  | option :: options => do
    let first ← readOption content option
    let rest ← readOptions content options
    .ok (first.toList ++ rest)

/-- The type after a colon, if the text begins with one and the type is not blank. -/
def typeOf? : List Char → Option String
  | ':' :: cs =>
    let name := Text.trim (cs.takeWhile (· != ','))
    if name.isEmpty then none else some (.ofList name)
  | _ => none

/-- The texts of the options after the first comma. -/
def optionTexts (cs : List Char) : List (List Char) :=
  match cs.dropWhile (· != ',') with
  | _ :: options => Text.fieldsOn ',' options
  | [] => []

/-- A character of the property, which ends at a comma or a colon. -/
def isNamePart (c : Char) : Bool := c != ',' && c != ':'

def parse (content : String) : Except CompileError Placeholder :=
  let cs := Text.trimStart content.toList
  if cs.head? = some '(' then .error (.unsupportedExpression content)
  else
    let property := cs.takeWhile isNamePart
    (readOptions content (optionTexts cs)).map fun options =>
      ⟨.ofList (Text.trim property), typeOf? (cs.dropWhile isNamePart), options⟩

end Placeholder

end SqlTemplate
