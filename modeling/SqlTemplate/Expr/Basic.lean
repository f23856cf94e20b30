import SqlTemplate.Value.Basic

/-! # Expressions

Tests, values of bindings and substitutions are expressions over the parameter and the bindings.
-/

namespace SqlTemplate

inductive BinaryOp
  | or
  | and
  | eq
  | ne
  | lt
  | le
  | gt
  | ge
  | isIn
  | notIn
  | add
  | sub
  | mul
  | div
  | rem
  deriving DecidableEq

inductive UnaryOp
  | not
  | neg
  deriving DecidableEq

inductive Expr
  | literal (v : Value)
  /-- A bare name: a binding, or else a property of the parameter. -/
  | ident (name : String)
  /-- A name after `#`: a binding only. -/
  | binding (name : String)
  | property (target : Expr) (name : String)
  | index (target key : Expr)
  | call (target : Expr) (method : String) (args : List Expr)
  | unary (op : UnaryOp) (operand : Expr)
  | binary (left : Expr) (op : BinaryOp) (right : Expr)
  | conditional (test yes no : Expr)
  | list (items : List Expr)
  | map (entries : List (Expr × Expr))
  deriving Inhabited

namespace BinaryOp

def text : BinaryOp → String
  | .or => "or"
  | .and => "and"
  | .eq => "=="
  | .ne => "!="
  | .lt => "<"
  | .le => "<="
  | .gt => ">"
  | .ge => ">="
  | .isIn => "in"
  | .notIn => "not in"
  | .add => "+"
  | .sub => "-"
  | .mul => "*"
  | .div => "/"
  | .rem => "%"

end BinaryOp

namespace Expr

/-- A chain of navigation from a name with constant indexes. -/
def isPath : Expr → Bool
  | .ident _ | .binding _ => true
  | .property target _ => target.isPath
  | .index target (.literal _) => target.isPath
  | _ => false

/-- A quote in a string literal is written with a backslash. -/
def quoteChars (cs : List Char) : List Char := cs.flatMap fun c => if c = '\'' then ['\\', '\''] else [c]

mutual

/-- The text of an expression, with parentheses around every operation of two or three operands. -/
def chars : Expr → List Char
  | .literal (.string s) => '\'' :: quoteChars s.toList ++ ['\'']
  | .literal v => v.text.toList
  | .ident name => name.toList
  | .binding name => '#' :: name.toList
  | .property target name => target.chars ++ '.' :: name.toList
  | .index target key => target.chars ++ '[' :: key.chars ++ [']']
  | .call target method args =>
    target.chars ++ '.' :: method.toList ++ '(' :: [',', ' '].intercalate (itemChars args) ++ [')']
  | .unary .not operand => '!' :: operand.chars
  | .unary .neg operand => '-' :: operand.chars
  | .binary left op right => '(' :: left.chars ++ ' ' :: op.text.toList ++ ' ' :: right.chars ++ [')']
  | .conditional test yes no =>
    '(' :: test.chars ++ [' ', '?', ' '] ++ yes.chars ++ [' ', ':', ' '] ++ no.chars ++ [')']
  | .list items => '{' :: [',', ' '].intercalate (itemChars items) ++ ['}']
  | .map entries => '#' :: '{' :: [',', ' '].intercalate (entryChars entries) ++ ['}']

def itemChars : List Expr → List (List Char)
  | [] => []
  | e :: items => e.chars :: itemChars items

def entryChars : List (Expr × Expr) → List (List Char)
  | [] => []
  | (key, e) :: entries => (key.chars ++ [':', ' '] ++ e.chars) :: entryChars entries

end

def text (e : Expr) : String := .ofList e.chars

end Expr

end SqlTemplate
