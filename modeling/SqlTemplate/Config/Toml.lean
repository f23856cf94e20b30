import SqlTemplate.Dict
import SqlTemplate.Number.Integer
import SqlTemplate.Text.Scanner
import SqlTemplate.Text.Search

/-! # TOML

The part of TOML that configuration files use: comments, tables, and keys with strings, integers, truth values and
arrays.
-/

namespace SqlTemplate

inductive Toml
  | string (s : String)
  | bool (b : Bool)
  | integer (n : Int)
  | array (items : List Toml)
  | table (entries : List (String × Toml))
  deriving Inhabited

namespace Toml

open Text (Scanner)
open Text.Scanner

def isSpace (c : Char) : Bool := c == ' ' || c == '\t'

def spaces : Scanner Unit := do
  let _ ← run isSpace
  pure ()

/-! ## Strings -/

/-- A character that may stand in a string or a comment. -/
def isPrintable (c : Char) : Bool := c == '\t' || (' ' ≤ c && c != '\x7f')

/-- The character that so many hexadecimal digits stand for. -/
def scalar? (width : Nat) (s : List Char) : Option (Char × List Char) :=
  if s.length < width then none
  else (Number.readHexDigits? (s.take width)).bind fun n =>
    if n.isValidChar then some (Char.ofNat n, s.drop width) else none

/-- The character that an escape stands for, by the text after the backslash. -/
def escaped? : List Char → Option (Char × List Char)
  | 'b' :: s => some ('\x08', s)
  | 't' :: s => some ('\t', s)
  | 'n' :: s => some ('\n', s)
  | 'f' :: s => some ('\x0c', s)
  | 'r' :: s => some ('\r', s)
  | '"' :: s => some ('"', s)
  | '\\' :: s => some ('\\', s)
  | 'u' :: s => scalar? 4 s
  | 'U' :: s => scalar? 8 s
  | _ => none

/-- The characters up to the closing quote. -/
def basicChars : (fuel : Nat) → Scanner (List Char)
  | 0 => failure
  | fuel + 1 => fun s =>
    match s with
    | '"' :: rest => some ([], rest)
    | '\\' :: rest =>
      match escaped? rest with
      | some (c, rest) => (basicChars fuel rest).map fun (cs, after) => (c :: cs, after)
      | none => none
    | c :: rest => if isPrintable c then (basicChars fuel rest).map fun (cs, after) => (c :: cs, after) else none
    | [] => none

def basicString : Scanner String := do
  char '"'
  let s ← get
  let cs ← basicChars s.length
  pure (.ofList cs)

/-- A string between single quotes, in which nothing is escaped. -/
def literalString : Scanner String := do
  char '\''
  let cs ← run fun c => isPrintable c && c != '\''
  char '\''
  pure (.ofList cs)

/-! ## Values -/

def isWordChar (c : Char) : Bool := c.isAlphanum || c == '_' || c == '-'

def boolOf? (cs : List Char) : Option Bool :=
  if cs = ['t', 'r', 'u', 'e'] then some true
  else if cs = ['f', 'a', 'l', 's', 'e'] then some false
  else none

def unsigned : List Char → List Char
  | '+' :: cs | '-' :: cs => cs
  | cs => cs

/-- The digits without the underscores in them, each of which stands between two digits. -/
def ungrouped? (cs : List Char) : Option (List Char) :=
  let groups := Text.fieldsOn '_' cs
  if groups.any List.isEmpty then none else some groups.flatten

/-- An integer of 64 bits. A zero stands only alone. -/
def integerOf? (cs : List Char) : Option Int := do
  let digits ← ungrouped? (unsigned cs)
  if digits.head? = some '0' && digits.length ≠ 1 then none
  else
    let sign := if cs.head? = some '-' then ['-'] else []
    (Number.readInt64? (sign ++ digits)).map Int64.toInt

def scalarValue : Scanner Toml := do
  let cs ← run1 fun c => isWordChar c || c == '+'
  match boolOf? cs with
  | some b => pure (.bool b)
  | none =>
    let n ← integerOf? cs
    pure (.integer n)

def comment : Scanner Unit := fun s =>
  match s with
  | '#' :: rest => some ((), rest.dropWhile isPrintable)
  | s => some ((), s)

def lineBreak : Scanner Unit := fun s =>
  match s with
  | '\n' :: rest | '\r' :: '\n' :: rest => some ((), rest)
  | _ => none

/-- Spaces, comments and line breaks. -/
def layout : (fuel : Nat) → Scanner Unit
  | 0 => pure ()
  | fuel + 1 => do
    spaces
    comment
    (lineBreak >>= fun _ => layout fuel) <|> pure ()

def filler : Scanner Unit := do
  let s ← get
  layout (s.length + 1)

/-- The items of an array up to its closing bracket. A comma may follow the last. -/
def items (value : Scanner Toml) : (fuel : Nat) → Scanner (List Toml)
  | 0 => failure
  | fuel + 1 => do
    filler
    (char ']' >>= fun _ => pure []) <|> do
      let v ← value
      filler
      (char ']' >>= fun _ => pure [v]) <|> do
        char ','
        let vs ← items value fuel
        pure (v :: vs)

def arrayOf (value : Scanner Toml) : Scanner Toml := do
  char '['
  let s ← get
  let vs ← items value (s.length + 1)
  pure (.array vs)

/-- A value in which arrays are nested less deep than the limit. -/
def value : (limit : Nat) → Scanner Toml
  | 0 => failure
  | limit + 1 =>
    (Toml.string <$> basicString) <|> (Toml.string <$> literalString) <|> arrayOf (value limit) <|> scalarValue

/-! ## Lines -/

def key : Scanner String :=
  basicString <|> literalString <|> (String.ofList <$> run1 isWordChar)

/-- Keys between points. -/
def path : (fuel : Nat) → Scanner (List String)
  | 0 => failure
  | fuel + 1 => do
    spaces
    let k ← key
    spaces
    (char '.' >>= fun _ => (k :: ·) <$> path fuel) <|> pure [k]

def keys : Scanner (List String) := do
  let s ← get
  path (s.length + 1)

inductive Line
  | header (path : List String)
  | entry (path : List String) (value : Toml)

def header : Scanner Line := do
  char '['
  let p ← keys
  char ']'
  pure (.header p)

def entry : Scanner Line := do
  let p ← keys
  char '='
  spaces
  let s ← get
  let v ← value (s.length + 1)
  pure (.entry p v)

def lineEnd : Scanner Unit := do
  spaces
  comment
  let s ← get
  if s.isEmpty then pure () else lineBreak

/-- The lines up to the end of the text. -/
def lines : (fuel : Nat) → Scanner (List Line)
  | 0 => pure []
  | fuel + 1 => do
    filler
    let s ← get
    if s.isEmpty then pure []
    else
      let l ← header <|> entry
      lineEnd
      let ls ← lines fuel
      pure (l :: ls)

/-! ## Documents -/

/-- The table with a value at a path. A value that is there already is not replaced. -/
def put? (v : Toml) : (path : List String) → (entries : List (String × Toml)) → Option (List (String × Toml))
  | [], _ => none
  | [k], entries => if Dict.contains entries k then none else some (Dict.insert k v entries)
  | k :: path, entries =>
    match Dict.get? entries k with
    | none => (put? v path []).map fun inner => Dict.insert k (.table inner) entries
    | some (.table inner) => (put? v path inner).map fun inner => Dict.insert k (.table inner) entries
    | some _ => none

/-- The table with a table at a path. -/
def openTable? (path : List String) (entries : List (String × Toml)) : Option (List (String × Toml)) :=
  match path with
  | [] => some entries
  | k :: path =>
    match Dict.get? entries k with
    | none => (openTable? path []).map fun inner => Dict.insert k (.table inner) entries
    | some (.table inner) => (openTable? path inner).map fun inner => Dict.insert k (.table inner) entries
    | some _ => none

/-- Puts the lines into a table. `current` is the header in force and `seen` holds those before. -/
def build? (current : List String) (seen : List (List String)) (entries : List (String × Toml)) :
    List Line → Option (List (String × Toml))
  | [] => some entries
  | .header p :: ls =>
    if p ∈ seen then none else (openTable? p entries).bind fun entries => build? p (p :: seen) entries ls
  | .entry p v :: ls => (put? v (current ++ p) entries).bind fun entries => build? current seen entries ls

/-- The entries of a document. -/
def parse? (text : String) : Option (Dict Toml) :=
  let cs := text.toList
  (whole? (lines (cs.length + 1)) cs).bind (build? [] [] [])

end Toml

end SqlTemplate
