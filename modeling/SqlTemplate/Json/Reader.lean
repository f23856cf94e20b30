import SqlTemplate.Json.Basic

/-! # Reading JSON

Readers take characters off the front of a text and return the rest.
-/

namespace SqlTemplate.Json

open Number

/-- The number of four hexadecimal digits. -/
def unit? (a b c d : Char) : Option Nat := readHexDigits? [a, b, c, d]

def isHighUnit (u : Nat) : Bool := 0xD800 ≤ u && u < 0xDC00

def isLowUnit (u : Nat) : Bool := 0xDC00 ≤ u && u < 0xE000

/-- The character of a surrogate pair. -/
def joinUnits (high low : Nat) : Char := Char.ofNat (0x10000 + (high - 0xD800) * 0x400 + (low - 0xDC00))

def escaped? : Char → Option Char
  | '"' => some '"'
  | '\\' => some '\\'
  | '/' => some '/'
  | 'b' => some '\x08'
  | 'f' => some '\x0c'
  | 'n' => some '\n'
  | 'r' => some '\r'
  | 't' => some '\t'
  | _ => none

/-- The characters up to the closing quote. -/
def readString? : List Char → Option (List Char × List Char)
  | [] => none
  | '"' :: rest => some ([], rest)
  | '\\' :: 'u' :: a :: b :: c :: d :: rest =>
    match unit? a b c d with
    | none => none
    | some u =>
      if isHighUnit u then
        match rest with
        | '\\' :: 'u' :: e :: f :: g :: h :: rest =>
          match unit? e f g h with
          | some v =>
            if isLowUnit v then (readString? rest).map fun (cs, r) => (joinUnits u v :: cs, r) else none
          | none => none
        | _ => none
      else if isLowUnit u then none
      else (readString? rest).map fun (cs, r) => (Char.ofNat u :: cs, r)
  | '\\' :: c :: rest =>
    match escaped? c with
    | some e => (readString? rest).map fun (cs, r) => (e :: cs, r)
    | none => none
  | c :: rest =>
    if c.toNat < 32 || c = '\\' then none else (readString? rest).map fun (cs, r) => (c :: cs, r)

def isExponentMark (c : Char) : Bool := c == 'e' || c == 'E'

/-- The exponent at the front, none being zero. -/
def takeExponent? : List Char → Option (Option Int × List Char)
  | c :: cs =>
    if isExponentMark c then
      let (negative, cs) := takeSign cs
      (readDigits? (cs.takeWhile Char.isDigit)).map fun n =>
        (some (if negative then -(n : Int) else n), cs.dropWhile Char.isDigit)
    else some (none, c :: cs)
  | [] => some (none, [])

/-- The digits after the point at the front, if there is one. -/
def takeFraction? : List Char → Option (Option (List Char) × List Char)
  | '.' :: cs =>
    let digits := cs.takeWhile Char.isDigit
    if digits.isEmpty then none else some (some digits, cs.dropWhile Char.isDigit)
  | cs => some (none, cs)

def finite? (x : Float) : Option Json := if x.isFinite then some (.float x) else none

/-- An integer of at most 64 bits without its sign. What the sign takes out of range is a floating-point number, and
so is the negative zero. -/
def ofInteger (negative : Bool) (n : Nat) : Json :=
  if negative then
    if n = 0 then .float (withSign true (ofDecimal 0 0))
    else if Int64.minValue.toInt ≤ -(n : Int) then .int (-(n : Int)) else .float (ofInt (-(n : Int)))
  else .int n

/-- How a numeral becomes a floating-point number. -/
inductive Rounding
  /-- It becomes the nearest number. -/
  | once
  /-- The digits that 64 bits hold are rounded, and so is their product with a power of ten. The last bit of a long numeral
  need not be that of the nearest number. -/
  | twice

/-- The number with one more digit, as long as 64 bits hold it. -/
def appendDigit? (m : Nat) (c : Char) : Option Nat :=
  let next := 10 * m + (c.toNat - '0'.toNat)
  if next < UInt64.size then some next else none

/-- Takes in whole digits. From the first that does not fit, each one is a power of ten instead. -/
def appendWhole (m : Nat) : List Char → Nat × Int
  | [] => (m, 0)
  | c :: cs =>
    match appendDigit? m c with
    | some next => appendWhole next cs
    | none => (m, cs.length + 1)

theorem appendWhole_cons (m : Nat) (c : Char) (cs : List Char) :
    appendWhole m (c :: cs) = (appendDigit? m c).elim (m, (cs.length : Int) + 1) (appendWhole · cs) := by
  show (match appendDigit? m c with | some next => appendWhole next cs | none => (m, (cs.length : Int) + 1)) = _
  cases appendDigit? m c <;> rfl

/-- Takes in the digits of a fraction, each for one power of ten less. The first that does not fit ends them. -/
def appendFraction (m : Nat) : List Char → Nat × Int
  | [] => (m, 0)
  | c :: cs =>
    match appendDigit? m c with
    | some next =>
      let (m, e) := appendFraction next cs
      (m, e - 1)
    | none => (m, 0)

/-- The rounded digits times a power of ten, rounded again. -/
def scale (m : Nat) (e : Int) : Float :=
  let x := ofDecimal m 0
  if m = 0 then x
  else if 0 ≤ e then x * ofDecimal 1 e
  else if -308 ≤ e then x / ofDecimal 1 (-e)
  else x / ofDecimal 1 308 / ofDecimal 1 (-e - 308)

/-- The floating-point number of a numeral without its sign. -/
def Rounding.magnitude (r : Rounding) (whole fraction : List Char) (exponent : Int) : Float :=
  match r with
  | .once => Numeral.toFloat ⟨false, whole, fraction, exponent⟩
  | .twice =>
    let (m, above) := appendWhole 0 whole
    let (m, below) := appendFraction m fraction
    scale m (above + below + exponent)

/-- A numeral at the front: an integer where 64 bits hold it and it has neither fraction nor exponent. -/
def readNumber? (rounding : Rounding) (cs : List Char) : Option (Json × List Char) := do
  let (negative, cs) :=
    match cs with
    | '-' :: cs => (true, cs)
    | cs => (false, cs)
  let whole := cs.takeWhile Char.isDigit
  let n ← readDigits? whole
  if 1 < whole.length && whole.head? == some '0' then none
  else
    let (fraction, rest) ← takeFraction? (cs.dropWhile Char.isDigit)
    let (exponent, rest) ← takeExponent? rest
    if fraction.isNone && exponent.isNone && n < UInt64.size then some (ofInteger negative n, rest)
    else
      let number ← finite? (withSign negative (rounding.magnitude whole (fraction.getD []) (exponent.getD 0)))
      some (number, rest)

/-- Items between commas up to the closing mark. -/
def readItems? (item : List Char → Option (α × List Char)) (close : Char) :
    (fuel : Nat) → List Char → Option (List α × List Char)
  | 0, _ => none
  | fuel + 1, cs => do
    let (a, rest) ← item cs
    match Text.skipGaps rest with
    | ',' :: rest =>
      let (items, rest) ← readItems? item close fuel rest
      some (a :: items, rest)
    | c :: rest => if c = close then some ([a], rest) else none
    | [] => none

def readMember? (value : List Char → Option (Json × List Char)) (cs : List Char) :
    Option ((String × Json) × List Char) :=
  match Text.skipGaps cs with
  | '"' :: rest => do
    let (key, rest) ← readString? rest
    match Text.skipGaps rest with
    | ':' :: rest =>
      let (v, rest) ← value rest
      some ((.ofList key, v), rest)
    | _ => none
  | _ => none

/-- A value at the front. Containers may be nested less deep than the limit. -/
def readValue? (rounding : Rounding) : (limit : Nat) → List Char → Option (Json × List Char)
  | 0, _ => none
  | limit + 1, cs =>
    match Text.skipGaps cs with
    | 'n' :: 'u' :: 'l' :: 'l' :: rest => some (.null, rest)
    | 't' :: 'r' :: 'u' :: 'e' :: rest => some (.bool true, rest)
    | 'f' :: 'a' :: 'l' :: 's' :: 'e' :: rest => some (.bool false, rest)
    | '"' :: rest => (readString? rest).map fun (s, rest) => (.string (.ofList s), rest)
    | '[' :: rest =>
      match limit, Text.skipGaps rest with
      | 0, _ => none
      | _, ']' :: rest => some (.array [], rest)
      | _, _ => (readItems? (readValue? rounding limit) ']' rest.length rest).map fun (items, rest) => (.array items, rest)
    | '{' :: rest =>
      match limit, Text.skipGaps rest with
      | 0, _ => none
      | _, '}' :: rest => some (.object [], rest)
      | _, _ =>
        (readItems? (readMember? (readValue? rounding limit)) '}' rest.length rest).map fun (entries, rest) =>
          (.object (Dict.ofList entries), rest)
    | cs => readNumber? rounding cs

/-- The value that a whole text is, with nothing but blanks around it. -/
def parse? (rounding : Rounding) (text : String) : Option Json :=
  match readValue? rounding 128 text.toList with
  | some (j, rest) => if (Text.skipGaps rest).isEmpty then some j else none
  | none => none

end SqlTemplate.Json
