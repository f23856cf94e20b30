import SqlTemplate.Catalog.Basic

/-! # Loading mappers

Of several variants of a statement or a fragment, the one for the configured database is taken, and else the one for no database
in particular.
-/

namespace SqlTemplate

/-- What becomes of a new variant beside one that is there. -/
inductive Precedence
  | replace
  | keep
  | duplicate

/-- A variant for a database goes before one for none. -/
def Precedence.of (previous next : Option String) : Precedence :=
  match previous, next with
  | some _, none => .keep
  | none, some _ => .replace
  | _, _ => .duplicate

namespace Catalog

def selectKeySuffix : String := "!selectKey"

/-- Whether a variant is for no database in particular or for the configured one. -/
def matchesDatabase (c : Catalog) (databaseId : Option String) : Bool :=
  match databaseId with
  | none => true
  | some id => c.engine.databaseId == some id

def failWith {α : Type} (e : CompileError) : Change α := throw (.compile e)

def addFragment (nameSpace : String) (element : Element) : Change Unit := do
  let c ← get
  let name ← MonadExcept.ofExcept ((element.required "id").mapError Error.compile)
  let id := qualify nameSpace name
  let databaseId := element.attribute? "databaseId"
  let added := { c with fragments := Dict.insert id ⟨nameSpace, databaseId, element⟩ c.fragments }
  if c.matchesDatabase databaseId then
    match Dict.get? c.fragments id with
    | none => set added
    | some previous =>
      match Precedence.of previous.databaseId databaseId with
      | .replace => set added
      | .keep => pure ()
      | .duplicate => failWith (.duplicateStatement id)

/-- Puts a statement into the catalog. What was compiled under its id is forgotten. -/
def put (s : Statement) (c : Catalog) : Catalog :=
  { c with statements := Dict.insert s.id s c.statements, sources := Dict.erase c.sources s.id }

def remove (id : String) (c : Catalog) : Catalog :=
  { c with statements := Dict.erase c.statements id, sources := Dict.erase c.sources id }

/-- The selectKey element among the contents that is for the database, `id` being that of the statement. -/
def chooseKey (c : Catalog) (id : String) (chosen : Option Element) : List Content → Except CompileError (Option Element)
  | [] => .ok chosen
  | .element "selectKey" attributes children :: contents =>
    let key : Element := ⟨"selectKey", attributes, children⟩
    let databaseId := key.attribute? "databaseId"
    if c.matchesDatabase databaseId then
      match chosen with
      | none => c.chooseKey id (some key) contents
      | some previous =>
        match Precedence.of (previous.attribute? "databaseId") databaseId with
        | .replace => c.chooseKey id (some key) contents
        | .keep => c.chooseKey id chosen contents
        | .duplicate => .error (.duplicateStatement (id ++ selectKeySuffix))
    else c.chooseKey id chosen contents
  | _ :: contents => c.chooseKey id chosen contents

def isSelectKey : Content → Bool
  | .element name _ _ => name == "selectKey"
  | _ => false

/-- The statement of a selectKey element inside the statement with the id. -/
def keyStatement (id nameSpace : String) (type : ValueType) (key : Element) : Statement where
  id := id ++ selectKeySuffix
  nameSpace := nameSpace
  kind := .select
  databaseId := key.attribute? "databaseId"
  parameterType := type
  resultType := key.attribute? "resultType"
  resultMap := none
  selectKey := none
  body := key

def keyOf (id : String) (key : Element) : SelectKey where
  statementId := id ++ selectKeySuffix
  property := key.attribute? "keyProperty"
  column := key.attribute? "keyColumn"
  before := (key.attribute? "order").any fun order => Text.sameName order "BEFORE"

/-- The statement of an element, given the parts of it that had to be looked for. -/
def statementOf (id nameSpace : String) (kind : StatementKind) (type : ValueType) (key : Option Element)
    (element : Element) : Statement where
  id := id
  nameSpace := nameSpace
  kind := kind
  databaseId := element.attribute? "databaseId"
  parameterType := type
  resultType := element.attribute? "resultType"
  resultMap := element.attribute? "resultMap"
  selectKey := key.map (keyOf id)
  body := ⟨element.name, element.attributes, element.children.filter (!isSelectKey ·)⟩

def parameterTypeOf (e : Engine) (element : Element) : Except Error ValueType :=
  match element.attribute? "parameterType" with
  | some text => e.resolveType text
  | none => .ok .object

/-- Registers a statement that takes the place of any other with its id, and the statement of its key. -/
def register (id nameSpace : String) (kind : StatementKind) (element : Element) : Change Unit := do
  modify (·.remove (id ++ selectKeySuffix))
  let c ← get
  let type ← MonadExcept.ofExcept (parameterTypeOf c.engine element)
  let key ← MonadExcept.ofExcept
    ((c.chooseKey ((element.attribute? "id").getD "") none element.children).mapError Error.compile)
  match key with
  | some k => modify (·.put (keyStatement id nameSpace type k))
  | none => pure ()
  modify (·.put (statementOf id nameSpace kind type key element))

/-- Adds the statement of an element, unless it is for another database or one before it has precedence. The result says how many
were added. -/
def addStatement (nameSpace : String) (kind : StatementKind) (element : Element) : Change Nat := do
  let c ← get
  let name ← MonadExcept.ofExcept ((element.required "id").mapError Error.compile)
  let id := qualify nameSpace name
  let databaseId := element.attribute? "databaseId"
  if c.matchesDatabase databaseId then
    match (Dict.get? c.statements id).map fun previous => Precedence.of previous.databaseId databaseId with
    | none | some .replace =>
      register id nameSpace kind element
      pure 1
    | some .keep => pure 0
    | some .duplicate => failWith (.duplicateStatement id)
  else pure 0

def addFragments (nameSpace : String) : List Element → Change Unit
  | [] => pure ()
  | e :: elements => do
    if e.name = "sql" then addFragment nameSpace e
    addFragments nameSpace elements

/-- Adds the statements among the elements. Elements of other names are passed over. -/
def addStatements (nameSpace : String) : List Element → Change Nat
  | [] => pure 0
  | e :: elements => do
    let added ←
      match StatementKind.read e.name with
      | .ok kind => addStatement nameSpace kind e
      | .error _ => pure 0
    let more ← addStatements nameSpace elements
    pure (added + more)

/-- The namespace of a mapper, which is not blank. -/
def nameSpaceOf (root : Element) : Except Error String :=
  match (root.attribute? "namespace").map Text.trimString with
  | some name => if name.isEmpty then .error (.compile (.missingAttribute "mapper" "namespace")) else .ok name
  | none => .error (.compile (.missingAttribute "mapper" "namespace"))

def readMapper (text : String) : Except Error (String × Element) := do
  let root ← (Markup.parse text).mapError fun e => .compile (.markup e)
  if root.name ≠ "mapper" then .error (.config (.notMapper root.name))
  else
    let name ← nameSpaceOf root
    .ok (name, root)

/-- Adds the fragments and then the statements of a mapper document. The result is the number of statements added. -/
def addMapper (text : String) : Change Nat := do
  let (nameSpace, root) ← MonadExcept.ofExcept (readMapper text)
  addFragments nameSpace root.elements
  addStatements nameSpace root.elements

end Catalog

end SqlTemplate
