import SqlTemplate.Expr.Basic
import SqlTemplate.Template.Clause

/-! # Templates

A template is a tree of nodes. It is built once for a statement and rendered for each parameter.
-/

namespace SqlTemplate

/-- A run of text with substitutions in it. -/
inductive Segment
  | text (s : String)
  | expr (e : Expr)

/-- The tag that a clause was written with. -/
inductive ClauseKind
  | trim
  | «where»
  | «set»
  deriving DecidableEq

def ClauseKind.tag : ClauseKind → String
  | .trim => "trim"
  | .where => "where"
  | .set => "set"

/-- What a loop goes over and what it writes around its entries. -/
structure Loop where
  collection : Expr
  item : Option String
  index : Option String
  opening : Option String
  closing : Option String
  separator : Option String

inductive Node
  /-- Text that no parameter changes. -/
  | text (s : String)
  | substituted (source : String) (segments : List Segment)
  | conditional (test : Expr) (body : Node)
  | choose (whens : List (Expr × Node)) (otherwise : Option Node)
  | clause (kind : ClauseKind) (clause : Clause) (body : Node)
  | loop (loop : Loop) (body : Node)
  | bind (name : String) (value : Expr)
  | sequence (nodes : List Node)

namespace Node

mutual

/-- Nothing in the node but text. -/
def isStatic : Node → Bool
  | .text _ => true
  | .sequence nodes => allStatic nodes
  | _ => false

def allStatic : List Node → Bool
  | [] => true
  | n :: nodes => n.isStatic && allStatic nodes

end

end Node

structure Template where
  root : Node
  /-- Whether rendering depends on the parameter. -/
  dynamic : Bool

end SqlTemplate
