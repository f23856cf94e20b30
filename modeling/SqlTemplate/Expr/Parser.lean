import SqlTemplate.Expr.Basic
import SqlTemplate.Text.Letter
import SqlTemplate.Text.Reading
import SqlTemplate.Text.Search

/-! # Reading expressions

From the loosest to the tightest: the conditional, the six levels of the operator table, unary operators, and steps after a
primary. Operators of one level group to the left. Where a reader cannot go on it answers with the rest of the text, whose size
gives the position of the error.
-/

namespace SqlTemplate.Expr

open Text (Reader Reading skipGaps isNameChar isNameStart)

abbrev Parser (α : Type) := Reader (List Char) α

def stop {α : Type} : Parser α := fun s => .mismatch s

def char (c : Char) : Parser Unit := fun s =>
  match s with
  | d :: rest => if d = c then .done () rest else .mismatch s
  | [] => .mismatch s

def startsWithName (s : List Char) : Bool := s.head?.any isNameChar

/-! ## Operators -/

/-- What follows the word. A word of letters must not run on into a name. -/
def afterWord? (word s : List Char) : Option (List Char) :=
  match Text.after? word s with
  | some rest => if word.all Text.isLetter && startsWithName rest then none else some rest
  | none => none

/-- What follows the words, which have gaps between them. -/
def afterWords? : List (List Char) → List Char → Option (List Char)
  | [], s => some s
  | [word], s => afterWord? word s
  | word :: words, s =>
    match afterWord? word s with
    | some rest => if rest.head?.any Text.isGap then afterWords? words (skipGaps rest) else none
    | none => none

structure Operator where
  words : List (List Char)
  op : BinaryOp

/-- The levels from the loosest to the tightest. In a level the first spelling that fits counts, so that a longer one stands
before a shorter one that begins it. -/
def levels : List (List Operator) := [
  [⟨[['|', '|']], .or⟩, ⟨[['o', 'r']], .or⟩],
  [⟨[['&', '&']], .and⟩, ⟨[['a', 'n', 'd']], .and⟩],
  [⟨[['=', '=']], .eq⟩, ⟨[['e', 'q']], .eq⟩, ⟨[['!', '=']], .ne⟩, ⟨[['n', 'e', 'q']], .ne⟩],
  [⟨[['<', '=']], .le⟩, ⟨[['>', '=']], .ge⟩, ⟨[['<']], .lt⟩, ⟨[['>']], .gt⟩, ⟨[['l', 't', 'e']], .le⟩,
    ⟨[['l', 't']], .lt⟩, ⟨[['g', 't', 'e']], .ge⟩, ⟨[['g', 't']], .gt⟩, ⟨[['n', 'o', 't'], ['i', 'n']], .notIn⟩,
    ⟨[['i', 'n']], .isIn⟩],
  [⟨[['+']], .add⟩, ⟨[['-']], .sub⟩],
  [⟨[['*']], .mul⟩, ⟨[['/']], .div⟩, ⟨[['%']], .rem⟩]]

def takeOperator? (operators : List Operator) (s : List Char) : Option (BinaryOp × List Char) :=
  operators.findSome? fun o => (afterWords? o.words s).map (o.op, ·)

/-- Operators and operands after the first operand. The gaps before something that is no operator stay in the text. -/
def chain (operators : List Operator) (operand : Parser Expr) : (fuel : Nat) → Expr → Parser Expr
  | 0, left => pure left
  | fuel + 1, left => fun s =>
    match takeOperator? operators (skipGaps s) with
    | none => .done left s
    | some (op, after) =>
      match operand (skipGaps after) with
      | .done right rest => chain operators operand fuel (.binary left op right) rest
      | r => r

def level (operators : List Operator) (operand : Parser Expr) : Parser Expr := fun s =>
  match operand s with
  | .done left rest => chain operators operand rest.length left rest
  | r => r

def binaries : List (List Operator) → Parser Expr → Parser Expr
  | [], operand => operand
  | operators :: tighter, operand => level operators (binaries tighter operand)

/-- The unary operator at the front. An exclamation mark before an equals sign is none. -/
def takeUnary? (s : List Char) : Option (UnaryOp × List Char) :=
  match s with
  | '-' :: rest => some (.neg, rest)
  | '!' :: rest => if rest.head? = some '=' then none else some (.not, rest)
  | s => (afterWord? ['n', 'o', 't'] s).map (.not, ·)

theorem length_of_takeUnary? {s rest : List Char} {op : UnaryOp} (h : takeUnary? s = some (op, rest)) :
    rest.length < s.length := by
  unfold takeUnary? at h
  split at h
  · cases h
    simp
  · split at h
    · cases h
    · cases h
      simp
  · obtain ⟨r, hr, he⟩ := Option.map_eq_some_iff.1 h
    cases he
    unfold afterWord? at hr
    split at hr
    · rename_i r' ha
      split at hr
      · cases hr
      · cases hr
        rw [Text.eq_append_of_after? ha]
        simp
        omega
    · cases hr

/-- A minus sign before a number makes it a negative literal. -/
def applyUnary : UnaryOp → Expr → Expr
  | .neg, .literal (.int n) => .literal (.int (-n))
  | .neg, .literal (.float x) => .literal (.float (-x))
  | op, e => .unary op e

def unaries (operand : Parser Expr) (s : List Char) : Reading (List Char) Expr :=
  match _h : takeUnary? s with
  | some (op, rest) =>
    match unaries operand (skipGaps rest) with
    | .done e rest => .done (applyUnary op e) rest
    | r => r
  | none => operand s
termination_by s.length
decreasing_by
  have := length_of_takeUnary? _h
  have := Text.length_skipGaps_le rest
  omega

/-! ## Primaries -/

def identifier : Parser String := fun s =>
  match s with
  | c :: rest =>
    if isNameStart c then .done (.ofList (c :: rest.takeWhile isNameChar)) (rest.dropWhile isNameChar)
    else .mismatch s
  | [] => .mismatch s

/-- A point and digits, or nothing. -/
def takeFraction (s : List Char) : Option (List Char) × List Char :=
  match s with
  | '.' :: rest =>
    let digits := rest.takeWhile Char.isDigit
    if digits.isEmpty then (none, s) else (some digits, rest.dropWhile Char.isDigit)
  | s => (none, s)

/-- An exponent, or nothing. -/
def takeExponent (s : List Char) : Option Int × List Char :=
  match s with
  | c :: rest =>
    if c = 'e' || c = 'E' then
      let (negative, rest) := Number.takeSign rest
      match Number.readDigits? (rest.takeWhile Char.isDigit) with
      | some n => (some (if negative then -(n : Int) else n), rest.dropWhile Char.isDigit)
      | none => (none, s)
    else (none, s)
  | [] => (none, s)

inductive Suffix
  | integral
  | fractional

/-- One of the letters that may follow a number. `d` and `f` make it a floating-point one. -/
def takeSuffix (s : List Char) : Option Suffix × List Char :=
  match s with
  | c :: rest =>
    if c ∈ ['d', 'D', 'f', 'F'] then (some .fractional, rest)
    else if c ∈ ['l', 'L', 'b', 'B'] then (some .integral, rest)
    else (none, s)
  | [] => (none, s)

/-- A number without sign. An integer that 64 bits do not hold is an error at once. -/
def number : Parser Expr := fun s =>
  let whole := s.takeWhile Char.isDigit
  if whole.isEmpty then .mismatch s
  else
    let (fraction, rest) := takeFraction (s.dropWhile Char.isDigit)
    let (exponent, rest) := takeExponent rest
    let (suffix, rest) := takeSuffix rest
    if startsWithName rest then .mismatch s
    else
      match fraction, exponent, suffix with
      | none, none, none | none, none, some .integral =>
        match Number.toInt64? (Nat.ofDigitChars 10 whole 0) with
        | some n => .done (.literal (.int n)) rest
        | none => .failure s
      | _, _, _ =>
        let numeral : Number.Numeral := ⟨false, whole, fraction.getD [], exponent.getD 0⟩
        .done (.literal (.float numeral.toFloat)) rest

def unescape : Char → Char
  | 'n' => '\n'
  | 't' => '\t'
  | 'r' => '\r'
  | c => c

/-- The characters up to the quote. A backslash takes the next character as it is, but for line feed, tab and return. -/
def readQuoted? (quote : Char) : List Char → Option (List Char × List Char)
  | [] => none
  | '\\' :: c :: rest => (readQuoted? quote rest).map fun (cs, r) => (unescape c :: cs, r)
  | c :: rest =>
    if c = '\\' then none
    else if c = quote then some ([], rest)
    else (readQuoted? quote rest).map fun (cs, r) => (c :: cs, r)

/-- A string without an end is an error at once. -/
def string : Parser Expr := fun s =>
  match s with
  | c :: rest =>
    if c = '\'' || c = '"' then
      match readQuoted? c rest with
      | some (cs, rest) => .done (.literal (.string (.ofList cs))) rest
      | none => .failure s
    else .mismatch s
  | [] => .mismatch s

def keywords : List (List Char × Value) := [
  (['n', 'u', 'l', 'l'], .null), (['t', 'r', 'u', 'e'], .bool true), (['f', 'a', 'l', 's', 'e'], .bool false)]

def keyword : Parser Expr := fun s =>
  match keywords.findSome? fun (word, v) => (afterWord? word s).map (v, ·) with
  | some (v, rest) => .done (.literal v) rest
  | none => .mismatch s

def entry (sub : Parser Expr) : Parser (Expr × Expr) := do
  let key ← Reader.spaced sub
  char ':'
  let value ← Reader.spaced sub
  pure (key, value)

def mapLiteral (sub : Parser Expr) : Parser Expr := do
  char '#'
  char '{'
  let entries ← Reader.itemList (entry sub)
  Reader.gaps
  char '}'
  pure (.map entries)

def bindingName : Parser Expr := do
  char '#'
  let name ← identifier
  pure (.binding name)

def listLiteral (sub : Parser Expr) : Parser Expr := do
  char '{'
  let items ← Reader.itemList (Reader.spaced sub)
  Reader.gaps
  char '}'
  pure (.list items)

def bracketed (opening closing : Char) (sub : Parser Expr) : Parser Expr := do
  char opening
  let e ← Reader.spaced sub
  char closing
  pure e

def name : Parser Expr := do
  let name ← identifier
  pure (.ident name)

def primary (sub : Parser Expr) : Parser Expr :=
  number <|> string <|> keyword <|> mapLiteral sub <|> bindingName <|> listLiteral sub <|>
    bracketed '(' ')' sub <|> name

/-! ## Steps after a primary -/

def arguments (sub : Parser Expr) : Parser (List Expr) := do
  char '('
  let args ← Reader.itemList (Reader.spaced sub)
  Reader.gaps
  char ')'
  pure args

def member : Parser String := do
  char '.'
  identifier

/-- The expression with one more step. Whatever goes wrong inside a step, the text then has none. -/
def step? (sub : Parser Expr) (target : Expr) (s : List Char) : Option (Expr × List Char) :=
  match member s with
  | .done name rest =>
    match arguments sub rest with
    | .done args rest => some (.call target name args, rest)
    | _ => some (.property target name, rest)
  | _ =>
    match bracketed '[' ']' sub s with
    | .done key rest => some (.index target key, rest)
    | _ => none

def steps (sub : Parser Expr) : (fuel : Nat) → Expr → Parser Expr
  | 0, e => pure e
  | fuel + 1, e => fun s =>
    match step? sub e s with
    | some (e, rest) => steps sub fuel e rest
    | none => .done e s

def postfixed (sub : Parser Expr) : Parser Expr := fun s =>
  match primary sub s with
  | .done e rest => steps sub rest.length e rest
  | r => r

/-! ## Whole expressions -/

def branches (sub : Parser Expr) (test : Expr) : Parser Expr := do
  Reader.gaps
  let yes ← sub
  Reader.gaps
  char ':'
  Reader.gaps
  let no ← sub
  pure (.conditional test yes no)

def conditionalWith (sub : Parser Expr) : Parser Expr := fun s =>
  match binaries levels (unaries (postfixed sub)) s with
  | .done test rest =>
    match skipGaps rest with
    | '?' :: after => branches sub test after
    | _ => .done test rest
  | r => r

/-- An expression whose brackets and branches are nested less deep than the limit. -/
def nested : (limit : Nat) → Parser Expr
  | 0 => stop
  | limit + 1 => conditionalWith (nested limit)

inductive ParseFault
  | empty
  | unexpected (rest : String) (offset : Nat)
  | malformed (offset : Nat)

def ParseFault.message : ParseFault → String
  | .empty => "empty expression"
  | .unexpected rest offset => "unexpected '" ++ rest ++ "' at offset " ++ toString offset
  | .malformed offset => "syntax error at offset " ++ toString offset

/-- The bytes of a text before one of its ends. -/
def offsetOf (text rest : List Char) : Nat := Text.byteSize text - Text.byteSize rest

/-- An expression that takes up the whole of a text without blanks at its ends. Every level of nesting takes a character, so the
limit is never met. -/
def readAll (text : List Char) : Except ParseFault Expr :=
  match nested (text.length + 1) text with
  | .done e rest =>
    match Text.trimStart rest with
    | [] => .ok e
    | rest => .error (.unexpected (.ofList rest) (offsetOf text rest))
  | .mismatch rest | .failure rest => .error (.malformed (offsetOf text rest))

/-- A rejected expression and what is wrong with it. -/
structure ParseError where
  expression : String
  fault : ParseFault

def parse (input : String) : Except ParseError Expr :=
  let text := Text.trim input.toList
  if text.isEmpty then .error ⟨input, .empty⟩
  else (readAll text).mapError fun fault => ⟨.ofList text, fault⟩

end SqlTemplate.Expr
