import SqlTemplate.Number.Integer

/-! # Decimal text of floating-point numbers

A number is written with the fewest digits that read back to it, found in exact arithmetic: its neighbours
on the grids of 1, 2, ... significant digits are tried until one lies in the interval of the reals that round
to it. A layout then says where the point stands and whether there is an exponent.
-/

namespace SqlTemplate.Number

open Float.Model (UnpackedFloat)

/-- The number `num / den` and the reals around it that round to it, over one denominator. -/
structure Interval where
  low : Nat
  mid : Nat
  high : Nat
  den : Nat
  /-- The ends round to the number too. -/
  closed : Bool

/-- The interval of `m * 2 ^ e`. Below a power of two the neighbour is half as far. -/
def interval (m : Nat) (e : Int) : Interval :=
  let up := (e - 2).toNat
  let below := if m = 1 <<< 52 ∧ e ≠ -1074 then 1 else 2
  { low := (4 * m - below) <<< up
    mid := (4 * m) <<< up
    high := (4 * m + 2) <<< up
    den := 1 <<< (2 - e).toNat
    closed := m % 2 == 0 }

/-- The digits of a number and the place of the point: `0.d1d2d3... * 10 ^ point`. -/
structure Digits where
  digits : List Char
  point : Int

/-- The place of the point of `num / den`. -/
def pointOf (num den : Nat) : Int :=
  if den ≤ num then (Nat.toDigits 10 (num / den)).length
  else 1 - (Nat.toDigits 10 ((den - 1) / num)).length

/-- Which of two decimals that are equally near is written. -/
inductive Tie
  | up
  | even

/-- The point of the interval on the grid of `10 ^ scale` that is nearest to its middle. -/
def nearestOnGrid (tie : Tie) (i : Interval) (scale : Int) : Option Nat :=
  let grid := i.den * tens scale.toNat
  let shift := tens (-scale).toNat
  let (low, mid, high) := (i.low * shift, i.mid * shift, i.high * shift)
  let lower := mid / grid
  let upper := lower + 1
  let inside (c : Nat) : Bool :=
    if i.closed then low ≤ c * grid && c * grid ≤ high else low < c * grid && c * grid < high
  let (toLower, toUpper) := (mid - lower * grid, upper * grid - mid)
  let downOnTie :=
    match tie with
    | .up => false
    | .even => lower % 2 == 0
  match inside lower, inside upper with
  | true, true => some (if toLower < toUpper || toLower == toUpper && downOnTie then lower else upper)
  | true, false => some lower
  | false, true => some upper
  | false, false => none

/-- The first grid that has a point in the interval, from `tried` digits on. -/
def shortestFrom (tie : Tie) (i : Interval) (point : Int) : (fuel tried : Nat) → Nat × Int
  | 0, tried => (0, point - tried)
  | fuel + 1, tried =>
    match nearestOnGrid tie i (point - tried) with
    | some c => (c, point - tried)
    | none => shortestFrom tie i point fuel (tried + 1)

/-- Seventeen digits always suffice. -/
def shortest (tie : Tie) (m : Nat) (e : Int) : Digits :=
  let i := interval m e
  let (c, scale) := shortestFrom tie i (pointOf i.mid i.den) 17 1
  let ds := Nat.toDigits 10 c
  let kept := (ds.reverse.dropWhile (· == '0')).reverse
  { digits := kept, point := ds.length + scale }

/-! ## Layouts -/

/-- Where a number is written without an exponent, and what follows one that is whole. -/
structure Layout where
  /-- The places of the point for which there is no exponent. None: for all. -/
  positional : Option (Int × Int)
  whole : List Char
  tie : Tie
  notANumber : List Char
  infinite : List Char

def zeros (n : Nat) : List Char := List.replicate n '0'

def positionalText (whole : List Char) (d : Digits) : List Char :=
  let n : Int := d.digits.length
  if d.point ≤ 0 then '0' :: '.' :: zeros (-d.point).toNat ++ d.digits
  else if n ≤ d.point then d.digits ++ zeros (d.point - n).toNat ++ whole
  else d.digits.take d.point.toNat ++ '.' :: d.digits.drop d.point.toNat

def intText (n : Int) : List Char :=
  if n < 0 then '-' :: Nat.toDigits 10 n.natAbs else Nat.toDigits 10 n.natAbs

/-- An integer whose sign is always written. -/
def signedText (n : Int) : List Char :=
  (if n < 0 then '-' else '+') :: Nat.toDigits 10 n.natAbs

def exponentText (d : Digits) : List Char :=
  match d.digits with
  | [] => []
  | [c] => c :: 'e' :: signedText (d.point - 1)
  | c :: cs => c :: '.' :: cs ++ 'e' :: signedText (d.point - 1)

def Layout.digitsText (l : Layout) (d : Digits) : List Char :=
  match l.positional with
  | none => positionalText l.whole d
  | some (lo, hi) => if lo ≤ d.point ∧ d.point ≤ hi then positionalText l.whole d else exponentText d

def signText : UnpackedFloat.Sign → List Char
  | .positive => []
  | .negative => ['-']

def Layout.chars (l : Layout) (x : Float) : List Char :=
  match x.toModel.unpack with
  | .notANumber => l.notANumber
  | .infinity s => signText s ++ l.infinite
  | .zero s => signText s ++ '0' :: l.whole
  | .finite s m e _ => signText s ++ l.digitsText (shortest l.tie m e)

def Layout.text (l : Layout) (x : Float) : String := .ofList (l.chars x)

/-- Values in SQL text, messages and conversions never have an exponent, and whole ones have no point. -/
def plain : Layout := ⟨none, [], .up, ['N', 'a', 'N'], ['i', 'n', 'f']⟩

/-- JSON output keeps the point of a whole number and turns to exponents below `0.00001` and from `10 ^ 16` on, as in
`1e-6` and `1e+16`. -/
def json : Layout := ⟨some (-4, 16), ['.', '0'], .even, "null".toList, "null".toList⟩

/-! ## Reading -/

/-- The parts of a numeral: sign, whole digits, fraction digits, exponent. -/
structure Numeral where
  negative : Bool
  whole : List Char
  fraction : List Char
  exponent : Int

def takeSign : List Char → Bool × List Char
  | '-' :: cs => (true, cs)
  | '+' :: cs => (false, cs)
  | cs => (false, cs)

/-- An exponent: `e` or `E`, an optional sign and digits. The empty text is the exponent zero. -/
def readExponent? : List Char → Option Int
  | [] => some 0
  | c :: cs => if c = 'e' ∨ c = 'E' then readInt? cs else none

/-- Digits with an optional point among, before or after them, and an optional exponent. -/
def readNumeral? (cs : List Char) : Option Numeral :=
  let (negative, cs) := takeSign cs
  let whole := cs.takeWhile Char.isDigit
  let rest := cs.dropWhile Char.isDigit
  let (fraction, rest) :=
    match rest with
    | '.' :: rest => (rest.takeWhile Char.isDigit, rest.dropWhile Char.isDigit)
    | rest => ([], rest)
  if whole.isEmpty && fraction.isEmpty then none
  else (readExponent? rest).map fun e => ⟨negative, whole, fraction, e⟩

/-- The number nearest to `m * 10 ^ e`, the even one at a tie. -/
def ofDecimal (m : Nat) (e : Int) : Float := .ofModel (.ofScientific m e)

def withSign (negative : Bool) (x : Float) : Float := if negative then -x else x

def Numeral.toFloat (n : Numeral) : Float :=
  withSign n.negative
    (ofDecimal (Nat.ofDigitChars 10 (n.whole ++ n.fraction) 0) (n.exponent - n.fraction.length))

def infinity : Float := .ofModel (.pack (.infinity .positive))

def notANumber : Float := .ofModel (.pack .notANumber)

/-- The words for the values that have no digits, in any letter case. -/
def readSpecial? (cs : List Char) : Option Float :=
  let (negative, cs) := takeSign cs
  let word := String.ofList (cs.map Char.toLower)
  if word = "inf" ∨ word = "infinity" then some (withSign negative infinity)
  else if word = "nan" then some notANumber
  else none

def readFloat? (cs : List Char) : Option Float :=
  match readNumeral? cs with
  | some n => some n.toFloat
  | none => readSpecial? cs

/-! ## Whole numbers and remainders -/

def applySign (s : UnpackedFloat.Sign) (n : Nat) : Int :=
  match s with
  | .positive => n
  | .negative => -n

/-- The integer that the number is, if it is one. -/
def integer? (x : Float) : Option Int :=
  match x.toModel.unpack with
  | .zero _ => some 0
  | .finite s m e _ =>
    if 0 ≤ e then some (applySign s (m <<< e.toNat))
    else
      let unit := 1 <<< (-e).toNat
      if m % unit = 0 then some (applySign s (m / unit)) else none
  | _ => none

def ofInt (n : Int) : Float := withSign (n < 0) (ofDecimal n.natAbs 0)

/-- The number nearest to `m * 2 ^ e`. -/
def ofBinary (s : UnpackedFloat.Sign) (m : Nat) (e : Int) : Float :=
  .ofModel (.pack (UnpackedFloat.roundWithAccuracy .binary64 s (m <<< 53) (e - 53) .exact))

/-- What is left of the first number after taking away the second as often as it fits, toward zero. The remainder is exact
and has the sign of the first number. -/
def remainder (x y : Float) : Float :=
  match x.toModel.unpack, y.toModel.unpack with
  | .notANumber, _ | _, .notANumber | .infinity _, _ | _, .zero _ => notANumber
  | .zero _, _ | .finite .., .infinity _ => x
  | .finite s m e _, .finite _ n f _ =>
    let low := min e f
    ofBinary s ((m <<< (e - low).toNat) % (n <<< (f - low).toNat)) low

end SqlTemplate.Number
