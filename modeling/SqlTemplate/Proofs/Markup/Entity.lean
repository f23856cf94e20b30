import SqlTemplate.Markup.Entity
import SqlTemplate.Proofs.Text.Search

/-! # Texts with entities

Characters that mean something to markup are written as entities, by name or by number. Any other character may be. Decoding
gives back the characters, whichever way they were written.
-/

namespace SqlTemplate.Entity

open Text

/-- A number in a base up to sixteen, perhaps with zeros in front, its letters in either case. -/
inductive Numeral (base : Nat) : List Char → Nat → Prop
  | digit {d : Nat} {c : Char} (hd : d < base) (hc : c = d.digitChar ∨ c = d.digitChar.toUpper) : Numeral base [c] d
  | append {digits : List Char} {n d : Nat} {c : Char} (h : Numeral base digits n) (hd : d < base)
    (hc : c = d.digitChar ∨ c = d.digitChar.toUpper) : Numeral base (digits ++ [c]) (base * n + d)

/-- What stands between `&` and `;` for a character. -/
inductive Names : List Char → Char → Prop
  | lt : Names ['l', 't'] '<'
  | gt : Names ['g', 't'] '>'
  | amp : Names ['a', 'm', 'p'] '&'
  | quot : Names ['q', 'u', 'o', 't'] '"'
  | apos : Names ['a', 'p', 'o', 's'] '\''
  | decimal {digits : List Char} {c : Char} (h : Numeral 10 digits c.toNat) : Names ('#' :: digits) c
  | hexadecimal {digits : List Char} {c x : Char} (hx : x = 'x' ∨ x = 'X') (h : Numeral 16 digits c.toNat) :
    Names ('#' :: x :: digits) c

/-- The characters written so that the special ones are entities. -/
inductive Encodes (special : List Char) : List Char → List Char → Prop
  | nil : Encodes special [] []
  | plain {c : Char} {cs raw : List Char} (hc : c ∉ special) (h : Encodes special cs raw) : Encodes special (c :: cs) (c :: raw)
  | entity {name : List Char} {c : Char} {cs raw : List Char} (hname : Names name c) (h : Encodes special cs raw) :
    Encodes special (c :: cs) ('&' :: (name ++ ';' :: raw))

variable {c : Char} {n : Nat} {digits name special cs raw : List Char}

/-! ## Numbers -/

theorem isDigit_digitChar {d : Nat} (hd : d < 10) (hc : c = d.digitChar ∨ c = d.digitChar.toUpper) :
    c.isDigit = true ∧ c.toNat - 48 = d := by
  have hall : ∀ d < 10, (d.digitChar.isDigit = true ∧ d.digitChar.toNat - 48 = d) ∧ d.digitChar.toUpper = d.digitChar := by decide
  rcases hc with rfl | rfl
  · exact (hall d hd).1
  · rw [(hall d hd).2]
    exact (hall d hd).1

theorem hexValue?_digitChar {d : Nat} (hd : d < 16) (hc : c = d.digitChar ∨ c = d.digitChar.toUpper) :
    Number.hexValue? c = some d := by
  have hall : ∀ d < 16, Number.hexValue? d.digitChar = some d ∧ Number.hexValue? d.digitChar.toUpper = some d := by decide
  rcases hc with rfl | rfl
  · exact (hall d hd).1
  · exact (hall d hd).2

theorem Numeral.ne_nil {base : Nat} (h : Numeral base digits n) : digits ≠ [] := by
  cases h <;> simp

theorem readDigits?_numeral (h : Numeral 10 digits n) : Number.readDigits? digits = some n := by
  have hvalue : digits.all Char.isDigit = true ∧ Nat.ofDigitChars 10 digits 0 = n := by
    induction h with
    | digit hd hc =>
      obtain ⟨hdigit, hvalue⟩ := isDigit_digitChar hd hc
      exact ⟨by simpa using hdigit, by simpa [Nat.ofDigitChars] using hvalue⟩
    | append h hd hc ih =>
      obtain ⟨hdigit, hvalue⟩ := isDigit_digitChar hd hc
      refine ⟨by simp [ih.1, hdigit], ?_⟩
      rw [← ih.2]
      simpa [Nat.ofDigitChars] using hvalue
  have hne : digits.isEmpty = false := by simpa using h.ne_nil
  rw [Number.readDigits?, Number.isDigits, hne, hvalue.1, hvalue.2]
  rfl

theorem readHexDigits?_numeral (h : Numeral 16 digits n) : Number.readHexDigits? digits = some n := by
  have hne : digits.isEmpty = false := by simpa using h.ne_nil
  rw [Number.readHexDigits?, if_neg (by simp [hne])]
  induction h with
  | digit hd hc => simp [hexValue?_digitChar hd hc]
  | append h hd hc ih =>
    rw [List.foldl_append, ih (by simpa using h.ne_nil)]
    simp [hexValue?_digitChar hd hc]

/-- The characters of a number that no other part of markup is made of. -/
def isMark (c : Char) : Bool := c ∈ ['<', '"', '\'', ';', '+', 'x', 'X']

theorem isMark_of_mem {base : Nat} (hbase : base ≤ 16) (h : Numeral base digits n) : ∀ c ∈ digits, isMark c = false := by
  have hall : ∀ d < 16, isMark d.digitChar = false ∧ isMark d.digitChar.toUpper = false := by decide
  have hdigit {c : Char} {d : Nat} (hd : d < base) (hc : c = d.digitChar ∨ c = d.digitChar.toUpper) : isMark c = false := by
    rcases hc with rfl | rfl
    · exact (hall d (by omega)).1
    · exact (hall d (by omega)).2
  induction h with
  | digit hd hc => simpa using hdigit hd hc
  | append h hd hc ih =>
    intro c hmem
    rcases List.mem_append.1 hmem with hmem | hmem
    · exact ih c hmem
    · rw [List.mem_singleton.1 hmem]
      exact hdigit hd hc

/-! ## Names -/

theorem scalar?_toNat (c : Char) : scalar? c.toNat = some c := by
  have hvalid : c.toNat.isValidChar := c.valid
  rw [scalar?, if_pos hvalid, Char.ofNat_toNat]

theorem readNat?_numeral (h : Numeral 10 digits n) : Number.readNat? digits = some n := by
  have hmark := isMark_of_mem (by decide) h
  unfold Number.readNat?
  split
  · exact absurd (hmark '+' List.mem_cons_self) (by decide)
  · exact readDigits?_numeral h

theorem readHex?_numeral (h : Numeral 16 digits n) : Number.readHex? digits = some n := by
  have hmark := isMark_of_mem (by decide) h
  unfold Number.readHex?
  split
  · exact absurd (hmark '+' List.mem_cons_self) (by decide)
  · exact readHexDigits?_numeral h

theorem char?_of_names (h : Names name c) : char? name = some c := by
  cases h with
  | lt | gt | amp | quot | apos => rfl
  | hexadecimal hx h =>
    have hread := congrArg (·.bind scalar?) (readHex?_numeral h)
    rcases hx with rfl | rfl
    · exact hread.trans (scalar?_toNat c)
    · exact hread.trans (scalar?_toNat c)
  | decimal h =>
    have hmark := isMark_of_mem (by decide) h
    have hread := congrArg (·.bind scalar?) (readNat?_numeral h)
    rw [char?]
    · exact hread.trans (scalar?_toNat c)
    all_goals
      rintro rest rfl
      exact absurd (hmark _ List.mem_cons_self) (by decide)

theorem notMem_of_names (h : Names name c) : ∀ d ∈ name, d ∉ ['<', '"', '\'', ';'] := by
  have hnumeral {base : Nat} {digits : List Char} {n : Nat} (hbase : base ≤ 16) (h : Numeral base digits n) :
      ∀ d ∈ digits, d ∉ ['<', '"', '\'', ';'] := by
    intro d hd hmem
    have hmark := isMark_of_mem hbase h d hd
    simp only [List.mem_cons, List.not_mem_nil, or_false] at hmem
    rcases hmem with rfl | rfl | rfl | rfl <;> cases hmark
  cases h with
  | lt | gt | amp | quot | apos => simp
  | decimal h => exact List.forall_mem_cons.2 ⟨by decide, hnumeral (by decide) h⟩
  | hexadecimal hx h =>
    refine List.forall_mem_cons.2 ⟨by decide, List.forall_mem_cons.2 ⟨?_, hnumeral (by decide) h⟩⟩
    rcases hx with rfl | rfl <;> decide

/-! ## Texts -/

theorem Encodes.ne_nil (h : Encodes special cs raw) (hne : cs ≠ []) : raw ≠ [] := by
  cases h with
  | nil => exact hne
  | plain | entity => simp

/-- What is special to markup is in no written text, but for the ampersand that begins an entity. -/
theorem Encodes.notMem {x : Char} (h : Encodes special cs raw) (hx : x ∈ ['<', '"', '\'']) (hspecial : x ∈ special) : x ∉ raw := by
  induction h with
  | nil => exact List.not_mem_nil
  | plain hc h ih =>
    rw [List.mem_cons, not_or]
    exact ⟨fun heq => hc (heq ▸ hspecial), ih⟩
  | entity hname h ih =>
    have hother : x ≠ '&' ∧ x ≠ ';' ∧ x ∈ ['<', '"', '\'', ';'] := by
      simp only [List.mem_cons, List.not_mem_nil, or_false] at hx
      rcases hx with rfl | rfl | rfl <;> decide
    rw [List.mem_cons, List.mem_append, List.mem_cons, not_or, not_or, not_or]
    exact ⟨hother.1, fun hmem => notMem_of_names hname x hmem hother.2.2, hother.2.1, ih⟩

theorem decodeFrom_eq (whole cs : List Char) : decodeFrom whole cs =
    match breakOn ['&'] cs with
    | none => .ok cs
    | some (before, after) =>
      match breakOn [';'] after with
      | none => .error (.unterminated (.ofList whole))
      | some (entity, rest) =>
        match char? entity with
        | none => .error (.unknown (.ofList entity))
        | some c => (decodeFrom whole rest).map fun decoded => before ++ c :: decoded := by
  rw [decodeFrom]
  split
  · rename_i h
    simp only [h]
  · rename_i h
    simp only [h]
    split
    · rename_i he
      simp only [he]
    · rename_i entity rest he
      cases hchar : char? entity <;> simp only [he, hchar]

theorem decodeFrom_plain (hc : c ≠ '&') (whole raw : List Char) :
    decodeFrom whole (c :: raw) = (decodeFrom whole raw).map (c :: ·) := by
  have hbreak : breakOn ['&'] (c :: raw) = (breakOn ['&'] raw).map fun found => (c :: found.1, found.2) := by
    rw [breakOn, after?, if_neg (Ne.symm hc)]
  rw [decodeFrom_eq whole raw, decodeFrom_eq, hbreak]
  cases breakOn ['&'] raw with
  | none => rfl
  | some found =>
    dsimp only [Option.map_some]
    split
    · rfl
    · split
      · rfl
      · rename_i rest _ _ _ _
        cases decodeFrom whole rest <;> rfl

theorem decodeFrom_entity (hname : Names name c) (whole raw : List Char) :
    decodeFrom whole ('&' :: (name ++ ';' :: raw)) = (decodeFrom whole raw).map (c :: ·) := by
  have hsemicolon : ';' ∉ name := fun hmem => notMem_of_names hname _ hmem (by decide)
  have hstart : breakOn ['&'] ('&' :: (name ++ ';' :: raw)) = some ([], name ++ ';' :: raw) := rfl
  simp only [decodeFrom_eq whole ('&' :: _), hstart, breakOn_append hsemicolon, char?_of_names hname]
  rfl

theorem Encodes.decode (h : Encodes special cs raw) (hspecial : '&' ∈ special) : Entity.decode raw = .ok cs := by
  suffices hfrom : ∀ whole, decodeFrom whole raw = .ok cs from hfrom raw
  intro whole
  induction h with
  | nil => rw [decodeFrom_eq]; rfl
  | plain hc h ih =>
    rw [decodeFrom_plain (fun heq => hc (by rwa [heq])), ih]
    rfl
  | entity hname h ih =>
    rw [decodeFrom_entity hname, ih]
    rfl

/-- Every text can be written, since what is special has a name. -/
theorem exists_encodes (special : List Char) (hspecial : ∀ c ∈ special, c ∈ ['&', '<', '"', '\'']) (cs : List Char) :
    ∃ raw, Encodes special cs raw := by
  induction cs with
  | nil => exact ⟨[], .nil⟩
  | cons c cs ih =>
    obtain ⟨raw, h⟩ := ih
    by_cases hc : c ∈ special
    · have hname : ∃ name, Names name c := by
        have hmem := hspecial c hc
        simp only [List.mem_cons, List.not_mem_nil, or_false] at hmem
        rcases hmem with rfl | rfl | rfl | rfl
        exacts [⟨_, .amp⟩, ⟨_, .lt⟩, ⟨_, .quot⟩, ⟨_, .apos⟩]
      obtain ⟨name, hname⟩ := hname
      exact ⟨_, .entity hname h⟩
    · exact ⟨_, .plain hc h⟩

end SqlTemplate.Entity
