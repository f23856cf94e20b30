import SqlTemplate.Error
import SqlTemplate.Markup.Element
import SqlTemplate.Template.Node
import SqlTemplate.Token

/-! # Building templates

Expressions are read and tags are checked here, once, so that rendering never meets a malformed one.
-/

namespace SqlTemplate

def Element.required (e : Element) (key : String) : Except CompileError String :=
  match e.attribute? key with
  | some value => .ok value
  | none => .error (.missingAttribute e.name key)

def Element.expression (e : Element) (key : String) : Except CompileError Expr := do
  let text ← e.required key
  (Expr.parse text).mapError .expression

namespace Template

/-- The elements that a statement body may hold. -/
def tags : List String :=
  ["if", "choose", "when", "otherwise", "trim", "where", "set", "foreach", "bind", "script"]

/-- The segments of a text. Escaped placeholders keep their backslash for the pass that looks for placeholders. -/
def readSegments : List Piece → Except CompileError (List Segment)
  | [] => .ok []
  | .text s :: pieces => (readSegments pieces).map (.text s :: ·)
  | .token content :: pieces => do
    let e ← (Expr.parse (Text.trimString content)).mapError .expression
    let rest ← readSegments pieces
    .ok (.expr e :: rest)

def ofText (text : String) : Except CompileError Node :=
  if substitution.hasTokens text then (readSegments (substitution.split text)).map (.substituted text)
  else .ok (.text text)

/-- The clause of a `trim` element. -/
def clauseOf (e : Element) : Clause where
  lead := e.attribute? "prefix"
  tail := e.attribute? "suffix"
  leadOverrides := Clause.readOverrides (e.attribute? "prefixOverrides")
  tailOverrides := Clause.readOverrides (e.attribute? "suffixOverrides")

def loopOf (e : Element) : Except CompileError Loop := do
  let collection ← e.expression "collection"
  .ok ⟨collection, e.attribute? "item", e.attribute? "index", e.attribute? "open", e.attribute? "close",
    e.attribute? "separator"⟩

/-- The branches of a choice. -/
structure Branches where
  whens : List (Expr × Node)
  otherwise : Option Node

mutual

def ofContents : List Content → Except CompileError (List Node)
  | [] => .ok []
  | c :: contents => do
    let node ← ofContent c
    let nodes ← ofContents contents
    .ok (node :: nodes)

def ofContent : Content → Except CompileError Node
  | .text s | .cdata s => ofText s
  | .element name attributes children =>
    let e : Element := ⟨name, attributes, children⟩
    match name with
    | "script" => (ofContents children).map .sequence
    | "if" => do
      let test ← e.expression "test"
      let body ← ofContents children
      .ok (.conditional test (.sequence body))
    | "choose" => (ofBranches ⟨[], none⟩ children).map fun b => .choose b.whens b.otherwise
    | "trim" => (ofContents children).map fun body => .clause .trim (clauseOf e) (.sequence body)
    | "where" => (ofContents children).map fun body => .clause .where .where (.sequence body)
    | "set" => (ofContents children).map fun body => .clause .set .set (.sequence body)
    | "foreach" => do
      let l ← loopOf e
      let body ← ofContents children
      .ok (.loop l (.sequence body))
    | "bind" => do
      let target ← e.required "name"
      let value ← e.expression "value"
      .ok (.bind target value)
    | "when" | "otherwise" => .error (.misplacedTag name "choose")
    | _ => .error (.unknownTag name)

/-- Only branches and blank text may stand in a choice. -/
def ofBranches (found : Branches) : List Content → Except CompileError Branches
  | [] => .ok found
  | .text s :: contents =>
    if Text.isBlankString s then ofBranches found contents else .error (.misplacedTag "#text" "when")
  | .cdata _ :: _ => .error (.misplacedTag "#text" "when")
  | .element "when" attributes children :: contents => do
    let test ← Element.expression ⟨"when", attributes, children⟩ "test"
    let body ← ofContents children
    ofBranches { found with whens := found.whens ++ [(test, .sequence body)] } contents
  | .element "otherwise" _ children :: contents =>
    if found.otherwise.isSome then .error .tooManyOtherwise
    else do
      let body ← ofContents children
      ofBranches { found with otherwise := some (.sequence body) } contents
  | .element name _ _ :: _ =>
    if name ∈ tags then .error (.misplacedTag name "when") else .error (.unknownTag name)

end

mutual

/-- A substitution, or any element but `script`. -/
def isDynamic : Content → Bool
  | .text s | .cdata s => substitution.hasTokens s
  | .element name _ children => name != "script" || anyDynamic children

def anyDynamic : List Content → Bool
  | [] => false
  | c :: contents => isDynamic c || anyDynamic contents

end

/-- The template of a statement element, whose own name and attributes do not count. -/
def ofElement (e : Element) : Except CompileError Template :=
  (ofContents e.children).map fun nodes => ⟨.sequence nodes, anyDynamic e.children⟩

end Template

end SqlTemplate
