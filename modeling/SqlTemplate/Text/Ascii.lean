/-! # ASCII letter case

Names of tags, types and overrides ignore the case of the letters A to Z and of no others.
-/

namespace SqlTemplate.Text

def asciiUpper (s : String) : String := .ofList (s.toList.map Char.toUpper)

def asciiLower (s : String) : String := .ofList (s.toList.map Char.toLower)

def sameLetter (a b : Char) : Bool := a.toLower == b.toLower

/-- The characters agree one by one up to the case of ASCII letters. -/
def sameText : List Char → List Char → Bool
  | [], [] => true
  | a :: as, b :: bs => sameLetter a b && sameText as bs
  | _, _ => false

def sameName (a b : String) : Bool := sameText a.toList b.toList

/-- The text begins with the pattern up to the case of ASCII letters. -/
def startsLike (pattern text : List Char) : Bool := sameText pattern (text.take pattern.length)

/-- The text ends with the pattern up to the case of ASCII letters. Nothing ends with the empty pattern. -/
def endsLike (pattern text : List Char) : Bool :=
  !pattern.isEmpty && startsLike pattern.reverse text.reverse

end SqlTemplate.Text
