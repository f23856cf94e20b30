import SqlTemplate.Text.Search

/-! # Command lines

Options may stand anywhere. What is not an option is the command and its operands.
-/

namespace SqlTemplate.CommandLine

inductive Format
  | table
  | json
  deriving DecidableEq

inductive Command
  | render (mapper statement : String) (params json : Option String) (format : Format)
  | check (mappers : List String)
  | explain (mapper statement : String)
  | tags

structure Invocation where
  config : Option String
  databaseId : Option String
  verbose : Bool
  command : Command

inductive Key
  | config
  | databaseId
  | params
  | json
  | format
  deriving DecidableEq

def longKey? : List Char → Option Key
  | ['c', 'o', 'n', 'f', 'i', 'g'] => some .config
  | ['d', 'a', 't', 'a', 'b', 'a', 's', 'e', '-', 'i', 'd'] => some .databaseId
  | ['p', 'a', 'r', 'a', 'm', 's'] => some .params
  | ['j', 's', 'o', 'n'] => some .json
  | ['f', 'o', 'r', 'm', 'a', 't'] => some .format
  | _ => none

def shortKey? : Char → Option Key
  | 'c' => some .config
  | 'p' => some .params
  | 'j' => some .json
  | 'f' => some .format
  | _ => none

inductive Word
  | verbose
  /-- An option and its value, if that is part of the word. -/
  | option (key : Key) (value : Option String)
  | operand (s : String)

/-- The value after an equals sign, if there is one. -/
def attached : List Char → Option String
  | [] => none
  | '=' :: value => some (.ofList value)
  | value => some (.ofList value)

def readWord? (s : String) : Option Word :=
  match s.toList with
  | ['-', 'v'] => some .verbose
  | '-' :: '-' :: name =>
    if name = ['v', 'e', 'r', 'b', 'o', 's', 'e'] then some .verbose
    else
      match Text.breakOn ['='] name with
      | some (key, value) => (longKey? key).map fun k => .option k (some (.ofList value))
      | none => (longKey? name).map fun k => .option k none
  | '-' :: c :: value => (shortKey? c).map fun k => .option k (attached value)
  | _ => some (.operand s)

/-- The words of a command line by their meaning. -/
structure Words where
  verbose : Bool
  options : List (Key × String)
  operands : List String

/-- An option without a value of its own takes the next word. -/
def readWords? : List String → Option Words
  | [] => some ⟨false, [], []⟩
  | "--" :: operands => some ⟨false, [], operands⟩
  | s :: rest =>
    match readWord? s with
    | none => none
    | some .verbose => (readWords? rest).map fun w => { w with verbose := true }
    | some (.operand s) => (readWords? rest).map fun w => { w with operands := s :: w.operands }
    | some (.option k (some value)) => (readWords? rest).map fun w => { w with options := (k, value) :: w.options }
    | some (.option k none) =>
      match rest with
      | [] => none
      | value :: rest => (readWords? rest).map fun w => { w with options := (k, value) :: w.options }

/-- No option is given twice. -/
def distinct : List Key → Bool
  | [] => true
  | k :: keys => !keys.contains k && distinct keys

def formatOf? : Option String → Option Format
  | none | some "table" => some .table
  | some "json" => some .json
  | some _ => none

def renderCommand? (options : List (Key × String)) (mapper statement : String) : Option Command :=
  let params := options.lookup .params
  let json := options.lookup .json
  if params.isSome && json.isSome then none
  else (formatOf? (options.lookup .format)).map (.render mapper statement params json)

/-- The options that every command takes. -/
def isGlobal (k : Key) : Bool := k = .config || k = .databaseId

def command? (w : Words) : Option Command :=
  match w.operands with
  | ["render", mapper, statement] => renderCommand? w.options mapper statement
  | operands =>
    if w.options.all fun (k, _) => isGlobal k then
      match operands with
      | "check" :: mapper :: mappers => some (.check (mapper :: mappers))
      | ["explain", mapper, statement] => some (.explain mapper statement)
      | ["tags"] => some .tags
      | _ => none
    else none

def parse? (words : List String) : Option Invocation := do
  let w ← readWords? words
  if distinct (w.options.map (·.1)) then
    let command ← command? w
    some ⟨w.options.lookup .config, w.options.lookup .databaseId, w.verbose, command⟩
  else none

end SqlTemplate.CommandLine
