import SqlTemplate.Catalog.Source
import SqlTemplate.CommandLine.Arguments
import SqlTemplate.CommandLine.Listing
import SqlTemplate.CommandLine.Table
import SqlTemplate.Json.Printer
import SqlTemplate.Json.Reader

/-! # Running commands

A command reads files and writes lines. Where the files come from is left open, so that a command can be run on files that are
not on a disk.
-/

namespace SqlTemplate.CommandLine

/-- Where files come from. A file that cannot be read gives the reason. -/
structure Files (m : Type → Type) where
  isFile : String → m Bool
  read : String → m (Except String String)

/-- What the surroundings say of the configuration. -/
structure Environment where
  /-- The configuration file to use where the command line names none. -/
  config : Option String
  /-- The directory of the user's configuration files. -/
  home : Option String

structure Outcome where
  exit : Nat
  output : String
  errors : String

/-- A run that writes lines and may stop with a message. -/
abbrev Session (m : Type → Type) := ExceptT String (StateT (List String) m)

section

variable {m : Type → Type} [Monad m]

def write (lines : List String) : Session m Unit := modify (· ++ lines)

def ask {α : Type} (x : m α) : Session m α := ExceptT.lift (StateT.lift x)

/-- The value of a result, or an error with what was being done. -/
def expect {α : Type} (doing : String) (r : Except Error α) : Session m α :=
  MonadExcept.ofExcept (r.mapError fun e => doing ++ e.message)

/-! ## Configuration -/

/-- A reason that stands for itself as the cause of a failure to read. -/
def readFailure (reason : String) : String := (Error.io reason).message ++ ": " ++ reason

def loadConfig (files : Files m) (path : String) : Session m Config := do
  match ← ask (files.read path) with
  | .error reason => throw (readFailure reason)
  | .ok text =>
    match Config.ofToml? text with
    | some c => pure c
    | none => throw (Error.config (.unreadable (some path))).message

/-- The files that a configuration is looked for in. -/
def searchPaths (e : Environment) : List String :=
  "sqlscript.toml" :: (e.home.map fun home => home ++ "/sqlscript/config.toml").toList

/-- The first configuration that is there. -/
def discover (files : Files m) : List String → Session m Config
  | [] => pure .initial
  | path :: paths => do
    if ← ask (files.isFile path) then loadConfig files path else discover files paths

def configOf (files : Files m) (e : Environment) (i : Invocation) : Session m Config := do
  let c ←
    match i.config.or e.config with
    | some path => loadConfig files path
    | none => discover files (searchPaths e)
  match i.databaseId with
  | some id => pure { c with databaseId := some id }
  | none => pure c

/-! ## Mappers -/

def readFile (files : Files m) (path : String) : Session m String := do
  match ← ask (files.read path) with
  | .ok text => pure text
  | .error reason => throw ("reading " ++ path ++ ": " ++ reason)

def loadMappers (files : Files m) (verbose : Bool) (c : Catalog) : List String → Session m Catalog
  | [] => pure c
  | path :: paths => do
    let text ← readFile files path
    let (result, loaded) := Catalog.addMapper text c
    let count ← expect ("loading " ++ path ++ ": ") result
    if verbose then write ["Loaded " ++ path ++ " (" ++ toString count ++ " statements)"]
    loadMappers files verbose loaded paths

def loadCatalog (files : Files m) (e : Environment) (i : Invocation) (mappers : List String) : Session m Catalog := do
  let config ← configOf files e i
  let c ← expect "" (Catalog.ofConfig config)
  loadMappers files i.verbose c mappers

/-! ## Commands -/

def parameterText (files : Files m) (params json : Option String) : Session m (Option String) :=
  match params with
  | some path => some <$> readFile files path
  | none => pure json

def parameterOf (files : Files m) (params json : Option String) : Session m Value := do
  match ← parameterText files params json with
  | none => pure .null
  | some text =>
    match Json.parse? .twice text with
    | some j => pure (.ofJson j)
    | none => throw "parameter JSON: invalid JSON"

def optionJson (s : Option String) : Json := Json.ofOption .string s

def parameterJson (p : ParameterMapping) (v : Value) : Json :=
  .object (Dict.ofList
    [("property", .string p.property), ("type", .string p.type.name),
      ("jdbcType", optionJson (p.sqlType.map SqlType.name)), ("mode", .string p.mode.name),
      ("typeHandler", optionJson p.converter), ("value", v.toJson)])

def jsonLines (b : BoundSql) (values : List Value) : List String :=
  let parameters := List.zipWith parameterJson b.mappings values
  [Json.pretty 0 (.object (Dict.ofList [("sql", .string b.sql), ("parameters", .array parameters)]))]

def parameterRow (position : Nat) (p : ParameterMapping) (v : Value) : List String :=
  [toString position, p.property, p.type.name, (p.sqlType.map SqlType.name).getD "", p.converter.getD "-", v.text]

def parameterRows (position : Nat) : List (ParameterMapping × Value) → List (List String)
  | [] => []
  | (p, v) :: rest => parameterRow position p v :: parameterRows (position + 1) rest

def textLines (b : BoundSql) (values : List Value) : List String :=
  ["SQL:", "  " ++ Text.shrinkString b.sql, ""] ++
    if b.mappings.isEmpty then ["(no parameters)"]
    else tableLines ["#", "property", "type", "jdbc", "handler", "value"] (parameterRows 1 (b.mappings.zip values))

/-- A statement for a parameter and its converted values. -/
def renderStatement (statement : String) (parameter : Value) : Change (BoundSql × List Value) := do
  let b ← Catalog.bind statement parameter
  let values ← Catalog.extracting (b.convertAll parameter)
  pure (b, values)

def checkLines (failures : List (String × Error)) (size : Nat) : List String :=
  failures.map (fun (id, e) => "✗ " ++ id ++ ": " ++ e.message) ++
    [(if failures.isEmpty then "✓" else "✗") ++ " " ++ toString (size - failures.length) ++ " of " ++ toString size ++
      " statement(s) compiled"]

/-- Runs a command. The result says whether all went well. -/
def execute (files : Files m) (e : Environment) (i : Invocation) : Session m Bool := do
  match i.command with
  | .render mapper statement params json format =>
    let c ← loadCatalog files e i [mapper]
    let parameter ← parameterOf files params json
    let (b, values) ← expect "" (renderStatement statement parameter c).1
    write (match format with | .table => textLines b values | .json => jsonLines b values)
    pure true
  | .check mappers =>
    let c ← loadCatalog files e i mappers
    let (failures, _) := Catalog.compileAll c
    write (checkLines failures c.size)
    pure failures.isEmpty
  | .explain mapper statement =>
    let c ← loadCatalog files e i [mapper]
    let s ← expect "" (c.statement statement)
    let source ← expect "" (Catalog.source statement c).1
    write (listing s source)
    pure true
  | .tags =>
    write referenceLines
    pure true

def linesText (lines : List String) : String := String.join (lines.map (· ++ "\n"))

/-- The outcome of a command line. -/
def run (files : Files m) (e : Environment) (words : List String) : m Outcome :=
  match parse? words with
  | none => pure ⟨2, "", "error: invalid command line\n"⟩
  | some i => do
    let (result, lines) ← execute files e i []
    match result with
    | .ok done => pure ⟨if done then 0 else 1, linesText lines, ""⟩
    | .error message => pure ⟨1, linesText lines, "Error: " ++ message ++ "\n"⟩

end

end SqlTemplate.CommandLine
