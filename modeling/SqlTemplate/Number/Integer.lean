/-! # Integer text

Whole numbers are written in decimal. Reading one takes an optional sign and digits and nothing else.
-/

namespace SqlTemplate.Number

def isDigits (cs : List Char) : Bool := !cs.isEmpty && cs.all Char.isDigit

/-- Digits alone, at least one. -/
def readDigits? (cs : List Char) : Option Nat :=
  if isDigits cs then some (Nat.ofDigitChars 10 cs 0) else none

/-- Digits after an optional plus sign. -/
def readNat? : List Char → Option Nat
  | '+' :: cs => readDigits? cs
  | cs => readDigits? cs

/-- Digits after an optional sign. -/
def readInt? : List Char → Option Int
  | '-' :: cs => (readDigits? cs).map fun n => -(n : Int)
  | cs => (readNat? cs).map Int.ofNat

/-- A one with so many zeros after it. -/
def tens (n : Nat) : Nat := Nat.pow 10 n

/-- The word that holds the integer, if one does. -/
def toInt64? (n : Int) : Option Int64 :=
  if Int64.minValue.toInt ≤ n ∧ n ≤ Int64.maxValue.toInt then some (Int64.ofInt n) else none

/-- The word nearest to the integer. -/
def clampInt64 (n : Int) : Int64 :=
  if n < Int64.minValue.toInt then Int64.minValue
  else if Int64.maxValue.toInt < n then Int64.maxValue
  else Int64.ofInt n

def readInt64? (cs : List Char) : Option Int64 := (readInt? cs).bind toInt64?

def hexValue? (c : Char) : Option Nat :=
  if c.isDigit then some (c.toNat - 48)
  else if 'a' ≤ c ∧ c ≤ 'f' then some (c.toNat - 87)
  else if 'A' ≤ c ∧ c ≤ 'F' then some (c.toNat - 55)
  else none

def readHexDigits? (cs : List Char) : Option Nat :=
  if cs.isEmpty then none
  else cs.foldl (fun acc c => acc.bind fun n => (hexValue? c).map (16 * n + ·)) (some 0)

/-- Hexadecimal digits after an optional plus sign. -/
def readHex? : List Char → Option Nat
  | '+' :: cs => readHexDigits? cs
  | cs => readHexDigits? cs

/-- A number that a word of 32 bits holds. -/
def fits32 (n : Nat) : Bool := n < UInt32.size

theorem toInt_of_toInt64? {n : Int} {w : Int64} (h : toInt64? n = some w) : w.toInt = n := by
  unfold toInt64? at h
  split at h
  · rename_i hr
    cases h
    rw [Int64.toInt_minValue, Int64.toInt_maxValue] at hr
    exact Int64.toInt_ofInt_of_le hr.1 (by omega)
  · cases h

theorem toInt64?_toInt (w : Int64) : toInt64? w.toInt = some w := by
  rw [toInt64?, if_pos ⟨Int64.minValue_le_toInt w, Int64.toInt_le w⟩, Int64.ofInt_toInt]

theorem isDigit_toDigits (n : Nat) : ∀ c ∈ Nat.toDigits 10 n, c.isDigit = true := fun _ hc =>
  Nat.isDigit_of_mem_toDigits (by decide) (by decide) hc

theorem readDigits?_run {digits : List Char} (hne : digits ≠ []) (hdigits : ∀ c ∈ digits, c.isDigit = true) :
    readDigits? digits = some (Nat.ofDigitChars 10 digits 0) := by
  rw [readDigits?, isDigits, List.isEmpty_eq_false_iff.2 hne, List.all_eq_true.2 hdigits]
  rfl

theorem readDigits?_toDigits (n : Nat) : readDigits? (Nat.toDigits 10 n) = some n := by
  rw [readDigits?_run Nat.toDigits_ne_nil (isDigit_toDigits n), Nat.ofDigitChars_ten_toDigits]

end SqlTemplate.Number
