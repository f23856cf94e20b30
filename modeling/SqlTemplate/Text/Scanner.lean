/-! # Scanners

A scanner takes a value off the front of a text or fails.
-/

namespace SqlTemplate.Text

abbrev Scanner (α : Type) := StateT (List Char) Option α

namespace Scanner

def char (c : Char) : Scanner Unit := fun s =>
  match s with
  | d :: rest => if d = c then some ((), rest) else none
  | [] => none

/-- The characters at the front for which the test holds. -/
def run (p : Char → Bool) : Scanner (List Char) := fun s => some (s.takeWhile p, s.dropWhile p)

/-- The same, at least one. -/
def run1 (p : Char → Bool) : Scanner (List Char) := fun s =>
  if s.head?.any p then some (s.takeWhile p, s.dropWhile p) else none

/-- The value of a text that the scanner takes whole. -/
def whole? {α : Type} (p : Scanner α) (s : List Char) : Option α :=
  match p s with
  | some (a, []) => some a
  | _ => none

end Scanner

end SqlTemplate.Text
