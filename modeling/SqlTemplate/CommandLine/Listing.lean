import SqlTemplate.Catalog.Basic
import SqlTemplate.Text.Quoted

/-! # Listings

A listing shows the compiled form of a statement.
-/

namespace SqlTemplate.CommandLine

def pad (depth : Nat) : String := .ofList (List.replicate (2 * depth) ' ')

def expressionTexts : List Segment → List String
  | [] => []
  | .text _ :: segments => expressionTexts segments
  | .expr e :: segments => e.text :: expressionTexts segments

def clauseLine (kind : ClauseKind) (c : Clause) : String :=
  kind.tag ++ " prefix=" ++ Text.quoted (c.lead.getD "") ++ " suffix=" ++ Text.quoted (c.tail.getD "") ++
    " overrides=" ++ Text.quotedList c.leadOverrides ++ "/" ++ Text.quotedList c.tailOverrides

def loopLine (l : Loop) : String :=
  "foreach " ++ l.collection.text ++ " item=" ++ l.item.getD "-" ++ " index=" ++ l.index.getD "-" ++ " separator=" ++
    Text.quoted (l.separator.getD "")

mutual

/-- The lines of a node. A sequence has none of its own, and neither has blank text. -/
def nodeLines (depth : Nat) : Node → List String
  | .sequence nodes => allLines depth nodes
  | .text s =>
    let shrunk := Text.shrinkString s
    if shrunk.isEmpty then [] else [pad depth ++ shrunk]
  | .substituted source segments =>
    [pad depth ++ Text.shrinkString source ++ " [$\x7b\x7d: " ++ ", ".intercalate (expressionTexts segments) ++ "]"]
  | .conditional test body => (pad depth ++ "if " ++ test.text) :: nodeLines (depth + 1) body
  | .choose whens otherwise =>
    (pad depth ++ "choose") :: whenLines depth whens ++ otherwiseLines depth otherwise
  | .clause kind c body => (pad depth ++ clauseLine kind c) :: nodeLines (depth + 1) body
  | .loop l body => (pad depth ++ loopLine l) :: nodeLines (depth + 1) body
  | .bind name value => [pad depth ++ "bind " ++ name ++ " = " ++ value.text]

def allLines (depth : Nat) : List Node → List String
  | [] => []
  | n :: nodes => nodeLines depth n ++ allLines depth nodes

def whenLines (depth : Nat) : List (Expr × Node) → List String
  | [] => []
  | (test, body) :: whens =>
    (pad (depth + 1) ++ "when " ++ test.text) :: nodeLines (depth + 2) body ++ whenLines depth whens

def otherwiseLines (depth : Nat) : Option Node → List String
  | none => []
  | some body => (pad (depth + 1) ++ "otherwise") :: nodeLines (depth + 2) body

end

def databaseLine : Option String → List String
  | some id => ["  Database: " ++ id]
  | none => []

def keyLine : Option SelectKey → List String
  | some key =>
    ["  Select key: " ++ key.statementId ++ " (" ++ (if key.before then "before" else "after") ++ ")"]
  | none => []

/-- What is known of a statement before it is compiled. -/
def statementLines (s : Statement) : List String :=
  ["Statement: " ++ s.id, "  Kind: " ++ s.kind.name, "  Parameter type: " ++ s.parameterType.name] ++
    databaseLine s.databaseId ++ keyLine s.selectKey

def sourceLines : Source → List String
  | .fixed marked =>
    ["Static SQL:", "  " ++ Text.trimString marked.sql] ++
      marked.mappings.map fun m => "    • " ++ m.property ++ " " ++ m.type.name
  | .dynamic root _ => "Dynamic tree:" :: nodeLines 1 root

def listing (s : Statement) (source : Source) : List String := statementLines s ++ [""] ++ sourceLines source

end SqlTemplate.CommandLine
