/-! # Blanks

Trimming and word splitting work on the blanks of Unicode. The grammars allow only four characters between
their tokens, the gaps.
-/

namespace SqlTemplate.Text

/-- The characters of the Unicode property White_Space. -/
def isBlank (c : Char) : Bool :=
  let n := c.toNat
  (9 ≤ n && n ≤ 13) || n == 0x20 || n == 0x85 || n == 0xA0 || n == 0x1680 || (0x2000 ≤ n && n ≤ 0x200A) ||
    n == 0x2028 || n == 0x2029 || n == 0x202F || n == 0x205F || n == 0x3000

/-- Space, tab, carriage return and line feed. -/
def isGap (c : Char) : Bool := c == ' ' || c == '\t' || c == '\r' || c == '\n'

theorem isBlank_of_isGap (c : Char) (h : isGap c = true) : isBlank c = true := by
  simp only [isGap, Bool.or_eq_true, beq_iff_eq] at h
  rcases h with ((rfl | rfl) | rfl) | rfl <;> decide

def trimStart (cs : List Char) : List Char := cs.dropWhile isBlank

def trimEnd (cs : List Char) : List Char := (cs.reverse.dropWhile isBlank).reverse

/-- The text without the blanks around it. -/
def trim (cs : List Char) : List Char := trimEnd (trimStart cs)

def trimString (s : String) : String := .ofList (trim s.toList)

def isBlankString (s : String) : Bool := s.toList.all isBlank

def skipGaps (cs : List Char) : List Char := cs.dropWhile isGap

theorem length_skipGaps_le (cs : List Char) : (skipGaps cs).length ≤ cs.length :=
  (List.dropWhile_suffix _).length_le

/-! ## Words -/

/-- The maximal runs of characters that are not blank. -/
def words (cs : List Char) : List (List Char) :=
  match _h : trimStart cs with
  | [] => []
  | c :: rest => (c :: rest.takeWhile (!isBlank ·)) :: words (rest.dropWhile (!isBlank ·))
termination_by cs.length
decreasing_by
  have hle : (c :: rest).length ≤ cs.length := _h ▸ (List.dropWhile_suffix isBlank).length_le
  have := (List.dropWhile_suffix (!isBlank ·) (l := rest)).length_le
  simp only [List.length_cons] at hle
  omega

/-- Every run of blanks becomes one space, and those at the ends go. -/
def shrink (cs : List Char) : List Char := [' '].intercalate (words cs)

def shrinkString (s : String) : String := .ofList (shrink s.toList)

end SqlTemplate.Text
