/-! # Elements

A statement body and a mapper document are trees of elements. Comments and instructions are not part of them.
-/

namespace SqlTemplate

inductive Content
  | text (text : String)
  /-- Text that was marked as literal. -/
  | cdata (text : String)
  | element (name : String) (attributes : List (String × String)) (children : List Content)
  deriving Inhabited

structure Element where
  name : String
  attributes : List (String × String)
  children : List Content
  deriving Inhabited

namespace Element

/-- The first attribute of the name counts. -/
def attribute? (e : Element) (name : String) : Option String := e.attributes.lookup name

def toContent (e : Element) : Content := .element e.name e.attributes e.children

end Element

def Content.asElement? : Content → Option Element
  | .element name attributes children => some ⟨name, attributes, children⟩
  | _ => none

/-- The elements directly inside. -/
def Element.elements (e : Element) : List Element := e.children.filterMap Content.asElement?

mutual

def Content.decEq : (c d : Content) → Decidable (c = d)
  | .text s, .text t => decidable_of_iff (s = t) (by simp)
  | .cdata s, .cdata t => decidable_of_iff (s = t) (by simp)
  | .element name attributes children, .element name' attributes' children' =>
    have := Content.decEqList children children'
    decidable_of_iff (name = name' ∧ attributes = attributes' ∧ children = children') (by simp)
  | .text _, .cdata _ | .text _, .element _ _ _ | .cdata _, .text _ | .cdata _, .element _ _ _ | .element _ _ _, .text _
  | .element _ _ _, .cdata _ => isFalse (by simp)

def Content.decEqList : (contents others : List Content) → Decidable (contents = others)
  | [], [] => isTrue rfl
  | c :: contents, d :: others =>
    have := Content.decEq c d
    have := Content.decEqList contents others
    decidable_of_iff (c = d ∧ contents = others) (by simp)
  | [], _ :: _ | _ :: _, [] => isFalse (by simp)

end

instance : DecidableEq Content := Content.decEq

deriving instance DecidableEq for Element

end SqlTemplate
