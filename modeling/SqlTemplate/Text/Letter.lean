import SqlTemplate.Text.LetterRanges

/-! # Letters and numbers

ASCII is decided without the ranges, which is nearly every character of a template.
-/

namespace SqlTemplate.Text

/-- The code point lies in one of the ranges. -/
def inRanges (ranges : List (Nat × Nat)) (n : Nat) : Bool := ranges.any fun (lo, hi) => lo ≤ n && n ≤ hi

def isLetter (c : Char) : Bool :=
  if c.toNat < 128 then c.isAlpha else inRanges alphabeticRanges c.toNat

def isNumeric (c : Char) : Bool :=
  if c.toNat < 128 then c.isDigit else inRanges numericRanges c.toNat

def isAlphanumeric (c : Char) : Bool := isLetter c || isNumeric c

/-- A character of an identifier. -/
def isNameChar (c : Char) : Bool := isAlphanumeric c || c == '_' || c == '$'

/-- The first character of an identifier. -/
def isNameStart (c : Char) : Bool := isLetter c || c == '_' || c == '$'

theorem isNameChar_of_isNameStart (c : Char) (h : isNameStart c = true) : isNameChar c = true := by
  simp only [isNameStart, isNameChar, isAlphanumeric, Bool.or_eq_true] at h ⊢
  rcases h with (h | h) | h <;> simp [h]

end SqlTemplate.Text
