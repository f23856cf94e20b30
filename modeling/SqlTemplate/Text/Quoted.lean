import SqlTemplate.Text.HiddenRanges
import SqlTemplate.Text.Letter

/-! # Quoted text

The listing of a compiled statement shows its texts between double quotes, with whatever would not show
written as an escape.
-/

namespace SqlTemplate.Text

/-- The lower-case hexadecimal digits of a number. -/
def hexDigits (n : Nat) : List Char := Nat.toDigits 16 n

/-- A character without a glyph of its own: a control, a blank other than the space, a mark on the character before it, or
one that is drawn as nothing, such as the Hangul fillers. -/
def isHidden (c : Char) : Bool :=
  if c.toNat < 128 then c.toNat < 32 || c.toNat == 127
  else inRanges hiddenRanges c.toNat || inRanges extendingMarkRanges c.toNat ||
    inRanges defaultIgnorableRanges c.toNat

def quoteChar (c : Char) : List Char :=
  if c = '\x00' then ['\\', '0']
  else if c = '\t' then ['\\', 't']
  else if c = '\r' then ['\\', 'r']
  else if c = '\n' then ['\\', 'n']
  else if c = '"' || c = '\\' then ['\\', c]
  else if isHidden c then ['\\', 'u', '{'] ++ hexDigits c.toNat ++ ['}']
  else [c]

def quoted (s : String) : String := .ofList ('"' :: s.toList.flatMap quoteChar ++ ['"'])

/-- The quoted texts between square brackets. -/
def quotedList (texts : List String) : String := "[" ++ ", ".intercalate (texts.map quoted) ++ "]"

end SqlTemplate.Text
