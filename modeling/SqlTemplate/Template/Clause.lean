import SqlTemplate.Text.Ascii
import SqlTemplate.Text.Blank
import SqlTemplate.Text.Search

/-! # Clauses

A clause puts a prefix and a suffix around a text after taking an override off each end. Of a text with nothing left it
makes nothing.
-/

namespace SqlTemplate

structure Clause where
  lead : Option String
  tail : Option String
  /-- What is taken off the front, in the order of preference. -/
  leadOverrides : List String
  tailOverrides : List String

namespace Clause

/-- The overrides between vertical bars. -/
def readOverrides (text : Option String) : List String :=
  match text with
  | none => []
  | some s => ((Text.fieldsOn '|' s.toList).filter (!·.isEmpty)).map fun cs => Text.asciiUpper (.ofList cs)

/-- The clause of `WHERE`, with a leading `AND` or `OR` taken off. -/
def «where» : Clause where
  lead := some "WHERE"
  tail := none
  leadOverrides := ["AND ", "OR ", "AND\n", "OR\n", "AND\r", "OR\r", "AND\t", "OR\t"]
  tailOverrides := []

/-- The clause of `SET`, with a comma taken off at either end. -/
def «set» : Clause where
  lead := some "SET"
  tail := none
  leadOverrides := [","]
  tailOverrides := [","]

def leads (body : List Char) (override : String) : Bool := Text.startsLike override.toList body

def trails (body : List Char) (override : String) : Bool :=
  Text.endsLike override.toList body || Text.endsLike (Text.trim override.toList) body

/-- How many characters of an override are taken off. The blanks around it stay in the text. -/
def width (override : String) : Nat := (Text.trim override.toList).length

def dropLead (c : Clause) (body : List Char) : List Char :=
  match c.leadOverrides.find? (leads body) with
  | some override => body.drop (width override)
  | none => body

def dropTail (c : Clause) (body : List Char) : List Char :=
  match c.tailOverrides.find? (trails body) with
  | some override => body.take (body.length - width override)
  | none => body

/-- The text that is left once the overrides are taken off. -/
def strip (c : Clause) (text : List Char) : List Char :=
  Text.trim (c.dropTail (c.dropLead (Text.trim text)))

/-- A part and the space that sets it off. -/
def before : Option String → String
  | some s => s ++ " "
  | none => ""

def after : Option String → String
  | some s => " " ++ s
  | none => ""

/-- The clause around a text, or nothing. -/
def wrap? (c : Clause) (text : String) : Option String :=
  let body := c.strip text.toList
  if body.isEmpty then none else some (before c.lead ++ String.ofList body ++ after c.tail)

end Clause

end SqlTemplate
