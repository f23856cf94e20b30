import SqlTemplate.Json.Basic

/-! # Writing JSON -/

namespace SqlTemplate.Json

/-- Four hexadecimal digits for a control character. -/
def unitText (c : Char) : List Char :=
  let ds := Nat.toDigits 16 c.toNat
  ['\\', 'u'] ++ List.replicate (4 - ds.length) '0' ++ ds

def escapeChar (c : Char) : List Char :=
  if c = '"' || c = '\\' then ['\\', c]
  else if c = '\x08' then ['\\', 'b']
  else if c = '\x0c' then ['\\', 'f']
  else if c = '\n' then ['\\', 'n']
  else if c = '\r' then ['\\', 'r']
  else if c = '\t' then ['\\', 't']
  else if c.toNat < 32 then unitText c
  else [c]

def stringText (s : String) : String := .ofList ('"' :: s.toList.flatMap escapeChar ++ ['"'])

/-- A line break and the indentation of a depth. -/
def lineAt (depth : Nat) : String := .ofList ('\n' :: List.replicate (2 * depth) ' ')

/-- Parts between brackets, each on a line of its own. -/
def block (depth : Nat) (opening closing : String) (parts : List String) : String :=
  if parts.isEmpty then opening ++ closing
  else
    opening ++ lineAt (depth + 1) ++ ("," ++ lineAt (depth + 1)).intercalate parts ++ lineAt depth ++ closing

mutual

/-- The text over several lines, with an indentation of two spaces. -/
def pretty (depth : Nat) : Json → String
  | .null => "null"
  | .bool true => "true"
  | .bool false => "false"
  | .int n => .ofList (Number.intText n)
  | .float x => Number.json.text x
  | .string s => stringText s
  | .array items => block depth "[" "]" (prettyItems (depth + 1) items)
  | .object entries => block depth "\x7b" "\x7d" (prettyEntries (depth + 1) entries)

def prettyItems (depth : Nat) : List Json → List String
  | [] => []
  | j :: items => pretty depth j :: prettyItems depth items

def prettyEntries (depth : Nat) : List (String × Json) → List String
  | [] => []
  | (key, j) :: entries => (stringText key ++ ": " ++ pretty depth j) :: prettyEntries depth entries

end

mutual

/-- The text on one line without blanks. -/
def compact : Json → String
  | .null => "null"
  | .bool true => "true"
  | .bool false => "false"
  | .int n => .ofList (Number.intText n)
  | .float x => Number.json.text x
  | .string s => stringText s
  | .array items => "[" ++ ",".intercalate (compactItems items) ++ "]"
  | .object entries => "\x7b" ++ ",".intercalate (compactEntries entries) ++ "\x7d"

def compactItems : List Json → List String
  | [] => []
  | j :: items => compact j :: compactItems items

def compactEntries : List (String × Json) → List String
  | [] => []
  | (key, j) :: entries => (stringText key ++ ":" ++ compact j) :: compactEntries entries

end

end SqlTemplate.Json
