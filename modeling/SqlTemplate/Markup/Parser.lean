import SqlTemplate.Markup.Element
import SqlTemplate.Markup.Entity
import SqlTemplate.Text.Letter
import SqlTemplate.Text.Reading

/-! # Reading markup

A document is one element, with comments, instructions, document types and gaps around it. Errors carry the rest of the text
at which they arose, whose size gives their position.
-/

namespace SqlTemplate.Markup

open Text (Reader Reading)

inductive Fault
  | noBracket
  | noName
  | noRoot
  | afterRoot
  | openComment
  | openInstruction
  | openDoctype
  | openCData
  | openValue (key : String)
  | entity (fault : Entity.Fault)
  | openTag (name : String)
  | neverClosed (name : String)
  | wrongClose (expected found : String)
  | openCloseTag (name : String)

def Fault.message : Fault → String
  | .noBracket => "unexpected input (Char)"
  | .noName => "unexpected input (TakeWhile1)"
  | .noRoot => "document has no root element"
  | .afterRoot => "unexpected content after the root element"
  | .openComment => "unterminated comment"
  | .openInstruction => "unterminated processing instruction"
  | .openDoctype => "unterminated doctype"
  | .openCData => "unterminated CDATA section"
  | .openValue key => "unterminated value for attribute '" ++ key ++ "'"
  | .entity fault => fault.message
  | .openTag name => "expected '>' to close <" ++ name ++ ">"
  | .neverClosed name => "element <" ++ name ++ "> is never closed"
  | .wrongClose expected found => "expected </" ++ expected ++ "> but found </" ++ found ++ ">"
  | .openCloseTag name => "expected '>' after </" ++ name

/-- A fault and the text from its place on. -/
structure Stop where
  rest : List Char
  fault : Fault

abbrev Parser (α : Type) := Reader Stop α

def here : Parser (List Char) := fun s => .done s s

def fail {α : Type} (rest : List Char) (fault : Fault) : Parser α := fun _ => .failure ⟨rest, fault⟩

def isNameChar (c : Char) : Bool := Text.isAlphanumeric c || c == '_' || c == ':' || c == '-' || c == '.'

def name : Parser String := fun s =>
  let name := s.takeWhile isNameChar
  if name.isEmpty then .mismatch ⟨s, .noName⟩ else .done (.ofList name) (s.dropWhile isNameChar)

def startsWith (mark s : List Char) : Bool := (Text.after? mark s).isSome

/-- Passes over the mark if the text begins with it. -/
def accept (mark : List Char) : Parser Bool := fun s =>
  match Text.after? mark s with
  | some rest => .done true rest
  | none => .done false s

/-! ## Sections -/

def commentMark : List Char := ['<', '!', '-', '-']

def cdataMark : List Char := ['<', '!', '[', 'C', 'D', 'A', 'T', 'A', '[']

def instructionMark : List Char := ['<', '?']

def doctypeMark : List Char := ['<', '!', 'D', 'O', 'C', 'T', 'Y', 'P', 'E']

def closeMark : List Char := ['<', '/']

/-- The text between two marks. -/
def between (opening closing : List Char) (fault : Fault) : Parser (List Char) := fun s =>
  match Text.breakOn closing (s.drop opening.length) with
  | some (body, rest) => .done body rest
  | none => .failure ⟨s, fault⟩

def comment : Parser (List Char) := between commentMark ['-', '-', '>'] .openComment

def cdata : Parser (List Char) := between cdataMark [']', ']', '>'] .openCData

def instruction : Parser (List Char) := between instructionMark ['?', '>'] .openInstruction

/-- A document type may have a part in square brackets, in which `>` does not end it. -/
def doctype : Parser Unit := fun s =>
  let rest := (s.drop doctypeMark.length).dropWhile fun c => c != '[' && c != '>'
  let afterSubset : Option (List Char) :=
    match rest with
    | '[' :: subset => (Text.breakOn [']'] subset).map Prod.snd
    | rest => some rest
  match afterSubset.bind (Text.breakOn ['>']) with
  | some (_, rest) => .done () rest
  | none => .failure ⟨s, .openDoctype⟩

/-- What may stand around the root. -/
def surroundings : (fuel : Nat) → Parser Unit
  | 0 => pure ()
  | fuel + 1 => fun s =>
    let s := Text.skipGaps s
    if startsWith commentMark s then (comment >>= fun _ => surroundings fuel) s
    else if startsWith instructionMark s then (instruction >>= fun _ => surroundings fuel) s
    else if startsWith doctypeMark s then (doctype >>= fun _ => surroundings fuel) s
    else .done () s

def misc : Parser Unit := fun s => surroundings (s.length + 1) s

/-! ## Tags -/

def equalsSign : Parser Unit := fun s =>
  match Text.skipGaps s with
  | '=' :: rest => .done () (Text.skipGaps rest)
  | rest => .mismatch ⟨rest, .noBracket⟩

def quotedValue (key : String) : Parser String := fun s =>
  match s with
  | [] => .mismatch ⟨s, .noBracket⟩
  | quote :: rest =>
    if quote = '"' || quote = '\'' then
      match Text.breakOn [quote] rest with
      | none => .failure ⟨s, .openValue key⟩
      | some (raw, after) =>
        match Entity.decode raw with
        | .ok value => .done (.ofList value) after
        | .error fault => .failure ⟨rest, .entity fault⟩
    else .mismatch ⟨s, .noBracket⟩

def attributePair : Parser (String × String) := do
  let key ← name
  equalsSign
  let value ← quotedValue key
  pure (key, value)

/-- Attributes have gaps before them. What does not look like one is left in the text. -/
def attributesFrom : (fuel : Nat) → Parser (List (String × String))
  | 0 => pure []
  | fuel + 1 => fun s =>
    if s.head?.any Text.isGap then
      match attributePair (Text.skipGaps s) with
      | .done a rest => (attributesFrom fuel >>= fun more => pure (a :: more)) rest
      | .mismatch _ => .done [] s
      | .failure e => .failure e
    else .done [] s

def attributes : Parser (List (String × String)) := fun s => attributesFrom s.length s

def openingBracket : Parser Unit := fun s =>
  match s with
  | '<' :: rest => .done () rest
  | s => .mismatch ⟨s, .noBracket⟩

/-- The closing tag of an element that began at `start`. -/
def closeTag (start : List Char) (opened : String) : Parser Unit := do
  let s ← here
  if ← accept closeMark then
    let closed ← name
    if closed ≠ opened then fail s (.wrongClose opened closed)
    else
      Reader.gaps
      let s ← here
      if ← accept ['>'] then pure () else fail s (.openCloseTag closed)
  else fail start (.neverClosed opened)

/-! ## Content -/

/-- Characters up to the next bracket. -/
def textRun : Parser Content := fun s =>
  match Entity.decode (s.takeWhile (· != '<')) with
  | .ok text => .done (.text (.ofList text)) (s.dropWhile (· != '<'))
  | .error fault => .failure ⟨s, .entity fault⟩

/-- What a piece of content is by its first characters. -/
inductive Opening
  | nothing
  | comment
  | cdata
  | instruction
  | element
  | text

def opening (s : List Char) : Opening :=
  if s.isEmpty || startsWith closeMark s then .nothing
  else if startsWith commentMark s then .comment
  else if startsWith cdataMark s then .cdata
  else if startsWith instructionMark s then .instruction
  else if s.head? = some '<' then .element
  else .text

/-- The content up to a closing tag or the end of the text. -/
def contentsFrom (child : Parser Content) : (fuel : Nat) → Parser (List Content)
  | 0 => pure []
  | fuel + 1 => fun s =>
    let rest := contentsFrom child fuel
    let before (p : Parser Content) : Parser (List Content) := do
      let c ← p
      let more ← rest
      pure (c :: more)
    match opening s with
    | .nothing => .done [] s
    | .comment => (comment >>= fun _ => rest) s
    | .instruction => (instruction >>= fun _ => rest) s
    | .cdata => before (cdata >>= fun data => pure (.cdata (.ofList data))) s
    | .element => before child s
    | .text => before textRun s

def contents (child : Parser Content) : Parser (List Content) := fun s => contentsFrom child (s.length + 1) s

def elementWith (child : Parser Content) : Parser Content := do
  let start ← here
  openingBracket
  let tag ← name
  let attributes ← attributes
  Reader.gaps
  if ← accept ['/', '>'] then pure (.element tag attributes [])
  else
    let s ← here
    if ← accept ['>'] then
      let children ← contents child
      closeTag start tag
      pure (.element tag attributes children)
    else fail s (.openTag tag)

/-- An element in which elements are nested less deep than the limit. -/
def element : (limit : Nat) → Parser Content
  | 0 => fun s => .mismatch ⟨s, .noBracket⟩
  | limit + 1 => elementWith (element limit)

/-! ## Documents -/

/-- Every level of nesting takes characters, so the limit is never met. -/
def document : Parser Content := do
  misc
  let s ← here
  if s.isEmpty then fail s .noRoot
  else
    let root ← element (s.length + 1)
    misc
    let s ← here
    if s.isEmpty then pure root else fail s .afterRoot

/-- A fault and the number of bytes before it. -/
structure ParseError where
  position : Nat
  fault : Fault

def parse (text : String) : Except ParseError Element :=
  let cs := text.toList
  match document cs with
  | .done root _ => .ok (root.asElement?.getD default)
  | .mismatch e | .failure e => .error ⟨Text.byteSize cs - Text.byteSize e.rest, e.fault⟩

end SqlTemplate.Markup
