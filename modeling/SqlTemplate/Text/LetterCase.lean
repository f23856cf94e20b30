import SqlTemplate.Text.CaseRanges
import SqlTemplate.Text.Letter

/-! # Upper and lower case

The full case maps of Unicode: a character may become several, and a capital sigma at the end of a word
becomes the final sigma.
-/

namespace SqlTemplate.Text

/-- The image of a code point under the first run that covers it, or the code point itself. -/
def shiftCase (runs : List CaseRun) (n : Nat) : Nat :=
  match runs.find? fun r => r.first ≤ n && n ≤ r.last && (n - r.first) % r.stride == 0 with
  | some r => r.target + (n - r.first)
  | none => n

def mapCase (runs : List CaseRun) (expansions : List (Nat × List Nat)) (c : Char) : List Char :=
  match expansions.lookup c.toNat with
  | some ns => ns.map Char.ofNat
  | none => [Char.ofNat (shiftCase runs c.toNat)]

def upperChar (c : Char) : List Char :=
  if c.toNat < 128 then [c.toUpper] else mapCase upperRuns upperExpansions c

def lowerChar (c : Char) : List Char :=
  if c.toNat < 128 then [c.toLower] else mapCase lowerRuns lowerExpansions c

def isCased (c : Char) : Bool := inRanges casedRanges c.toNat

def isCaseIgnorable (c : Char) : Bool := inRanges caseIgnorableRanges c.toNat

/-- The first character that counts for case is a cased one. -/
def meetsCased (cs : List Char) : Bool :=
  match cs.dropWhile isCaseIgnorable with
  | [] => false
  | c :: _ => isCased c

def upperCase (s : String) : String := .ofList (s.toList.flatMap upperChar)

/-- The lower case of a text, `before` being what precedes it in reverse. -/
def lowerFrom (before : List Char) : List Char → List Char
  | [] => []
  | c :: rest =>
    let lower :=
      if c = 'Σ' then (if meetsCased before && !meetsCased rest then ['ς'] else ['σ']) else lowerChar c
    lower ++ lowerFrom (c :: before) rest

def lowerCase (s : String) : String := .ofList (lowerFrom [] s.toList)

end SqlTemplate.Text
