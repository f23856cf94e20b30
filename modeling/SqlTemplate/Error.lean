import SqlTemplate.Bindings
import SqlTemplate.EvaluationFault
import SqlTemplate.Expr.Parser
import SqlTemplate.Markup.Parser

/-! # Errors

Compile errors are found when a statement is loaded. The others depend on the parameter, or on which statements and
declarations there are.
-/

namespace SqlTemplate

/-- A name that stands for nothing. -/
inductive NameFault
  | sqlType (name : String)
  | mode (name : String)
  | statementKind (name : String)

def NameFault.message : NameFault → String
  | .sqlType name => "unknown jdbcType '" ++ name ++ "'"
  | .mode name => "unknown mode '" ++ name ++ "'"
  | .statementKind name => "unknown statement kind '" ++ name ++ "'"

inductive PlaceholderFault
  | notAssignment (option : String)
  | misnamed (fault : NameFault)
  | noResultMap
  | unknownType (name : String)
  | badScale (text : String)

def PlaceholderFault.message : PlaceholderFault → String
  | .notAssignment option => "expected key=value but found '" ++ option ++ "'"
  | .misnamed fault => fault.message
  | .noResultMap => "resultMap is required for CURSOR parameters"
  | .unknownType name => "unknown javaType '" ++ name ++ "'"
  | .badScale text => "invalid numericScale '" ++ text ++ "'"

inductive CompileError
  | unknownTag (tag : String)
  | misplacedTag (tag parent : String)
  | tooManyOtherwise
  | missingAttribute (tag key : String)
  | invalidPlaceholder (content : String) (fault : PlaceholderFault)
  | unsupportedExpression (content : String)
  | invalidPlaceholderKey (key content : String)
  | expression (e : Expr.ParseError)
  | markup (e : Markup.ParseError)
  | unknownFragment (id : String)
  | duplicateProperty (name : String)
  | duplicateStatement (id : String)
  | circularInclude (id : String)

/-- A placeholder as it was written. -/
def written (content : String) : String := "#\x7b" ++ content ++ "\x7d"

def CompileError.message : CompileError → String
  | .unknownTag tag => "Unknown element <" ++ tag ++ "> in SQL statement"
  | .misplacedTag tag parent => "Element <" ++ tag ++ "> is only allowed inside <" ++ parent ++ ">"
  | .tooManyOtherwise => "Too many default (otherwise) elements in choose statement"
  | .missingAttribute tag key => "Element <" ++ tag ++ "> requires attribute '" ++ key ++ "'"
  | .invalidPlaceholder content fault => "Invalid placeholder " ++ written content ++ ": " ++ fault.message
  | .unsupportedExpression content => "Expression based parameters are not supported: " ++ written content
  | .invalidPlaceholderKey key content =>
    "An invalid property '" ++ key ++ "' was found in mapping " ++ written content ++
      ". Valid properties are javaType,jdbcType,mode,numericScale,resultMap,typeHandler,jdbcTypeName"
  | .expression e => "Invalid expression '" ++ e.expression ++ "': " ++ e.fault.message
  | .markup e => "Markup error at position " ++ toString e.position ++ ": " ++ e.fault.message
  | .unknownFragment id => "Could not find SQL fragment to include with refid '" ++ id ++ "'"
  | .duplicateProperty name => "Variable '" ++ name ++ "' defined twice in the same include definition"
  | .duplicateStatement id => "Statement '" ++ id ++ "' is already defined"
  | .circularInclude id => "Circular include of fragment '" ++ id ++ "'"

/-- What is wrong with a configuration or a mapper document as a whole. -/
inductive ConfigFault
  | notMapper (root : String)
  | unresolvedRecords (names : List String)
  | unreadable (path : Option String)

def ConfigFault.message : ConfigFault → String
  | .notMapper root => "expected <mapper> document, found <" ++ root ++ ">"
  | .unresolvedRecords names => "record types reference unknown or cyclic types: " ++ ", ".intercalate names
  | .unreadable none => "invalid configuration"
  | .unreadable (some path) => path ++ ": Configuration error: invalid configuration"

inductive Error
  | compile (e : CompileError)
  | unresolved (u : Unresolved)
  /-- No converter is known for a property. -/
  | noHandler (property : String) (candidates : List String)
  | evaluation (f : EvaluationFault)
  | unknownStatement (id : String)
  | ambiguousStatement (id : String) (candidates : List String)
  | config (f : ConfigFault)
  | io (reason : String)

namespace Error

def message : Error → String
  | .compile e => e.message
  | .unresolved u => u.message
  | .noHandler property candidates =>
    "No type handler for property '" ++ property ++ "' (considered: " ++ ", ".intercalate candidates ++ ")"
  | .evaluation f => f.message
  | .unknownStatement id => "Unknown statement: '" ++ id ++ "'"
  | .ambiguousStatement id candidates =>
    "Ambiguous statement id '" ++ id ++ "', candidates: " ++ ", ".intercalate candidates
  | .config f => "Configuration error: " ++ f.message
  | .io reason => "IO error: " ++ reason

/-- An error found when a statement is loaded. -/
def isCompile : Error → Bool
  | .compile _ => true
  | _ => false

end Error

end SqlTemplate
