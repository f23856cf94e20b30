import SqlTemplate.Expr.Parser
import SqlTemplate.Proofs.Text.Reading

/-! # Names, numbers and strings in expressions

Each is read back where the text after it does not go on with it. What a name could be taken for besides is said here too.
-/

namespace SqlTemplate.Expr

open Text

variable {s rest : List Char}

theorem head_of_startsWithName (h : startsWithName rest = false) : ∀ c ∈ rest.head?, isNameChar c = false := by
  intro c hc
  rw [startsWithName, Option.mem_def.1 hc] at h
  exact h

/-- A text after which a word or a number has ended: it begins with no character of a name, no arguments and no fraction. -/
structure Detached (rest : List Char) : Prop where
  name : startsWithName rest = false
  paren : rest.head? ≠ some '('
  fraction : takeFraction rest = (none, rest)

namespace Detached

theorem head (h : Detached rest) : ∀ c ∈ rest.head?, isNameChar c = false := head_of_startsWithName h.name

theorem exponent (h : Detached rest) : takeExponent rest = (none, rest) := by
  cases rest with
  | nil => rfl
  | cons c rest =>
    have hc := h.head c rfl
    have hletter : (c = 'e' || c = 'E') = false := by
      rw [Bool.or_eq_false_iff, decide_eq_false_iff_not, decide_eq_false_iff_not]
      constructor
      · rintro rfl
        cases hc
      · rintro rfl
        cases hc
    rw [takeExponent, hletter]
    rfl

theorem suffix (h : Detached rest) : takeSuffix rest = (none, rest) := by
  cases rest with
  | nil => rfl
  | cons c rest =>
    have hc := h.head c rfl
    have hletters : ∀ d ∈ ['d', 'D', 'f', 'F', 'l', 'L', 'b', 'B'], isNameChar d = true :=
      List.all_eq_true.1 (by decide)
    have hfractional : c ∉ ['d', 'D', 'f', 'F'] := by
      intro hmem
      rw [hletters c (List.mem_append_left ['l', 'L', 'b', 'B'] hmem)] at hc
      cases hc
    have hintegral : c ∉ ['l', 'L', 'b', 'B'] := by
      intro hmem
      rw [hletters c (List.mem_append_right ['d', 'D', 'f', 'F'] hmem)] at hc
      cases hc
    rw [takeSuffix, if_neg hfractional, if_neg hintegral]

end Detached

/-! ## Words -/

theorem isNameChar_of_isLetter {c : Char} (h : isLetter c = true) : isNameChar c = true := by
  simp [isNameChar, isAlphanumeric, h]

/-- A name is not taken for a word that it is not. -/
theorem afterWord?_name {word name : List Char} (hword : word.all isLetter = true) (hname : ∀ c ∈ name, isNameChar c = true)
    (hne : name ≠ word) (hrest : startsWithName rest = false) : afterWord? word (name ++ rest) = none := by
  unfold afterWord?
  split
  · rename_i after hafter
    rw [hword, Bool.true_and]
    split
    · rfl
    · rename_i hstop
      -- Both the name and the word are the run of name characters at the front.
      have hwordChars : ∀ c ∈ word, isNameChar c = true := fun c hc =>
        isNameChar_of_isLetter (List.all_eq_true.1 hword c hc)
      have hfirst := (run_split hname (head_of_startsWithName hrest)).1
      have hafterHead := head_of_startsWithName (Bool.eq_false_iff.2 hstop)
      rw [eq_append_of_after? hafter, (run_split hwordChars hafterHead).1] at hfirst
      exact absurd hfirst.symm hne
  · rfl

/-- A word before a text that does not go on with it. -/
theorem afterWord?_word (word : List Char) (hrest : startsWithName rest = false) : afterWord? word (word ++ rest) = some rest := by
  simp [afterWord?, after?_append, hrest]

/-! ## Names -/

theorem isDigit_of_isNameStart {c : Char} (h : isNameStart c = true) : c.isDigit = false := by
  by_contra hdigit
  rw [Bool.not_eq_false] at hdigit
  have hrange : 48 ≤ c.toNat ∧ c.toNat ≤ 57 := by simpa [Char.isDigit, UInt32.le_iff_toNat_le] using hdigit
  have hdigits : ∀ n ∈ List.range 58, 48 ≤ n → isNameStart (Char.ofNat n) = false := by decide
  have hfalse := hdigits c.toNat (List.mem_range.2 (by omega)) hrange.1
  rw [Char.ofNat_toNat, h] at hfalse
  cases hfalse

/-- A letter, underscore or dollar sign, and after it also digits. -/
def IsName (name : String) : Prop :=
  ∃ c cs, name.toList = c :: cs ∧ isNameStart c = true ∧ ∀ d ∈ cs, isNameChar d = true

/-- The words that are not names where an operand may stand. -/
def reserved : List String := ["null", "true", "false", "not"]

namespace IsName

variable {name : String}

theorem chars (h : IsName name) : ∀ c ∈ name.toList, isNameChar c = true := by
  obtain ⟨c, cs, hchars, hstart, hcs⟩ := h
  rw [hchars]
  exact List.forall_mem_cons.2 ⟨isNameChar_of_isNameStart c hstart, hcs⟩

theorem identifier (h : IsName name) (hrest : startsWithName rest = false) :
    identifier (name.toList ++ rest) = .done name rest := by
  obtain ⟨c, cs, hchars, hstart, hcs⟩ := h
  obtain ⟨htake, hdrop⟩ := run_split hcs (head_of_startsWithName hrest)
  have hname : String.ofList (c :: cs) = name := by rw [← hchars, String.ofList_toList]
  rw [hchars, List.cons_append, Expr.identifier, if_pos hstart, htake, hdrop, hname]

theorem detached (h : IsName name) (rest : List Char) : Detached ('.' :: (name.toList ++ rest)) := by
  obtain ⟨c, cs, hchars, hstart, -⟩ := h
  refine ⟨rfl, by simp, ?_⟩
  have hdigit := isDigit_of_isNameStart hstart
  rw [hchars, List.cons_append, takeFraction, List.takeWhile_cons_of_neg (by simp [hdigit])]
  rfl

end IsName

/-! ## Words for literals -/

theorem primary_keyword {word : List Char} {v : Value} (h : (word, v) ∈ keywords) (hrest : startsWithName rest = false)
    (sub : Parser Expr) : takeUnary? (word ++ rest) = none ∧ primary sub (word ++ rest) = .done (.literal v) rest := by
  have hword := afterWord?_word word hrest
  simp only [keywords, List.mem_cons, Prod.mk.injEq, List.not_mem_nil, or_false] at h
  have hread : keyword (word ++ rest) = .done (.literal v) rest := by
    rcases h with ⟨rfl, rfl⟩ | ⟨rfl, rfl⟩ | ⟨rfl, rfl⟩
    · simp only [keyword, keywords, List.findSome?_cons, hword, Option.map_some]
    · have hnull : afterWord? ['n', 'u', 'l', 'l'] (['t', 'r', 'u', 'e'] ++ rest) = none := rfl
      simp only [keyword, keywords, List.findSome?_cons, hnull, hword, Option.map_none, Option.map_some]
    · have hnull : afterWord? ['n', 'u', 'l', 'l'] (['f', 'a', 'l', 's', 'e'] ++ rest) = none := rfl
      have htrue : afterWord? ['t', 'r', 'u', 'e'] (['f', 'a', 'l', 's', 'e'] ++ rest) = none := rfl
      simp only [keyword, keywords, List.findSome?_cons, hnull, htrue, hword, Option.map_none, Option.map_some]
  have hothers : takeUnary? (word ++ rest) = none ∧ number (word ++ rest) = .mismatch (word ++ rest) ∧
      string (word ++ rest) = .mismatch (word ++ rest) := by
    rcases h with ⟨rfl, -⟩ | ⟨rfl, -⟩ | ⟨rfl, -⟩ <;> exact ⟨rfl, rfl, rfl⟩
  obtain ⟨hunary, hnumber, hstring⟩ := hothers
  rw [primary, Reader.orElse_mismatch hnumber, Reader.orElse_mismatch hstring, Reader.orElse_done hread]
  exact ⟨hunary, rfl⟩

/-! ## Numbers -/

theorem number_mismatch (h : ∀ c ∈ s.head?, c.isDigit = false) : number s = .mismatch s := by
  have hwhole : s.takeWhile Char.isDigit = [] := by
    cases s with
    | nil => rfl
    | cons c s => exact List.takeWhile_cons_of_neg (by simp [h c rfl])
  rw [number, hwhole]
  rfl

theorem exists_toDigits (n : Nat) : ∃ c cs, Nat.toDigits 10 n = c :: cs ∧ c.isDigit = true := by
  obtain ⟨c, cs, hdigits⟩ := List.exists_cons_of_ne_nil (Nat.toDigits_ne_nil (b := 10) (n := n))
  exact ⟨c, cs, hdigits, Number.isDigit_toDigits n c (by rw [hdigits]; exact List.mem_cons_self)⟩

/-- Digits are a literal if 64 bits hold their number. -/
theorem number_run {digits : List Char} (hne : digits ≠ []) (hdigits : ∀ c ∈ digits, c.isDigit = true) (hrest : Detached rest) :
    number (digits ++ rest) =
      match Number.toInt64? (Nat.ofDigitChars 10 digits 0) with
      | some w => .done (.literal (.int w)) rest
      | none => .failure (digits ++ rest) := by
  have hend : ∀ c ∈ rest.head?, c.isDigit = false := by
    intro c hc
    by_contra hdigit
    have hname := hrest.head c hc
    rw [isNameChar_of_isDigit (Bool.of_not_eq_false hdigit)] at hname
    cases hname
  obtain ⟨htake, hdrop⟩ := run_split hdigits hend
  rw [number, htake, hdrop, List.isEmpty_eq_false_iff.2 hne, hrest.fraction]
  cases Number.toInt64? (Nat.ofDigitChars 10 digits 0) <;>
    simp only [Bool.false_eq_true, if_false, hrest.exponent, hrest.suffix, hrest.name]

theorem number_digits (n : Nat) (hrest : Detached rest) :
    number (Nat.toDigits 10 n ++ rest) =
      match Number.toInt64? n with
      | some w => .done (.literal (.int w)) rest
      | none => .failure (Nat.toDigits 10 n ++ rest) := by
  have hrun := number_run (by simp) (Number.isDigit_toDigits n) hrest
  rwa [Nat.ofDigitChars_ten_toDigits] at hrun

theorem number_toDigits {n : Nat} {w : Int64} (hw : Number.toInt64? n = some w) (hrest : Detached rest) :
    number (Nat.toDigits 10 n ++ rest) = .done (.literal (.int w)) rest := by
  rw [number_digits n hrest, hw]

/-! ## Strings -/

theorem readQuoted?_quoteChars {cs : List Char} (h : '\\' ∉ cs) :
    readQuoted? '\'' (quoteChars cs ++ '\'' :: rest) = some (cs, rest) := by
  induction cs with
  | nil => rfl
  | cons c cs ih =>
    rw [List.mem_cons, not_or] at h
    have htail := ih h.2
    unfold quoteChars at htail ⊢
    rw [List.flatMap_cons, List.append_assoc]
    by_cases hquote : c = '\''
    · subst hquote
      rw [if_pos rfl, List.cons_append, List.cons_append, List.nil_append, readQuoted?, htail]
      rfl
    · rw [if_neg hquote, List.singleton_append, readQuoted?, if_neg (Ne.symm h.1), if_neg hquote, htail]
      · rfl
      · intro d r hbackslash
        exact absurd hbackslash.symm h.1

/-! ## What else a name could be -/

theorem char_done (c : Char) (s : List Char) : char c (c :: s) = .done () s := if_pos rfl

theorem char_mismatch {c d : Char} (h : c ≠ d) (s : List Char) : char d (c :: s) = .mismatch (c :: s) := if_neg h

theorem takeUnary?_word {c : Char} (h : c ≠ '-' ∧ c ≠ '!') (s : List Char) :
    takeUnary? (c :: s) = (afterWord? ['n', 'o', 't'] (c :: s)).map (.not, ·) := by
  unfold takeUnary?
  split
  · rename_i heq
    cases heq
    exact absurd rfl h.1
  · rename_i heq
    cases heq
    exact absurd rfl h.2
  · rfl

theorem takeUnary?_digit {c : Char} (h : c.isDigit = true) (s : List Char) : takeUnary? (c :: s) = none := by
  have hne {d : Char} (hd : d.isDigit = false) : c ≠ d := by
    rintro rfl
    rw [h] at hd
    cases hd
  rw [takeUnary?_word ⟨hne rfl, hne rfl⟩, afterWord?, after?, if_neg (hne rfl).symm]
  rfl

namespace IsName

variable {name : String} {sub : Parser Expr}

/-- Only an operator and the words for literals are taken before a name. -/
theorem takeUnary? (h : IsName name) (hne : name ≠ "not") (hrest : Detached rest) : takeUnary? (name.toList ++ rest) = none := by
  have hword : afterWord? ['n', 'o', 't'] (name.toList ++ rest) = none :=
    afterWord?_name rfl h.chars (fun heq => hne (String.toList_injective heq)) hrest.name
  obtain ⟨c, cs, hchars, hstart, -⟩ := h
  rw [hchars] at hword ⊢
  have hmarks : c ≠ '-' ∧ c ≠ '!' := by
    constructor
    · rintro rfl
      cases hstart
    · rintro rfl
      cases hstart
  rw [List.cons_append, takeUnary?_word hmarks, ← List.cons_append, hword]
  rfl

theorem keyword (h : IsName name) (hfree : name ∉ reserved) (hrest : Detached rest) :
    keyword (name.toList ++ rest) = .mismatch (name.toList ++ rest) := by
  have hnone (word : String) (hword : word ∈ reserved) (hletters : word.toList.all isLetter = true) :
      afterWord? word.toList (name.toList ++ rest) = none := by
    refine afterWord?_name hletters h.chars (fun heq => hfree ?_) hrest.name
    rw [String.toList_injective heq]
    exact hword
  have hnull : afterWord? ['n', 'u', 'l', 'l'] (name.toList ++ rest) = none := hnone "null" (by decide) rfl
  have htrue : afterWord? ['t', 'r', 'u', 'e'] (name.toList ++ rest) = none := hnone "true" (by decide) rfl
  have hfalse : afterWord? ['f', 'a', 'l', 's', 'e'] (name.toList ++ rest) = none := hnone "false" (by decide) rfl
  simp only [Expr.keyword, keywords, List.findSome?_cons, List.findSome?_nil, hnull, htrue, hfalse, Option.map_none]

theorem primary (h : IsName name) (hfree : name ∉ reserved) (hrest : Detached rest) (sub : Parser Expr) :
    primary sub (name.toList ++ rest) = .done (.ident name) rest := by
  have hkeyword := h.keyword hfree hrest
  have hidentifier := h.identifier hrest.name
  obtain ⟨c, cs, hchars, hstart, -⟩ := h
  have hne {d : Char} (hd : isNameStart d = false) : c ≠ d := by
    rintro rfl
    rw [hstart] at hd
    cases hd
  rw [hchars, List.cons_append] at hkeyword hidentifier ⊢
  have hnumber := number_mismatch (s := c :: (cs ++ rest)) (by simpa using isDigit_of_isNameStart hstart)
  have hstring : string (c :: (cs ++ rest)) = .mismatch (c :: (cs ++ rest)) := by
    have hquotes : (c = '\'' || c = '"') = false := by
      rw [Bool.or_eq_false_iff, decide_eq_false_iff_not, decide_eq_false_iff_not]
      exact ⟨hne rfl, hne rfl⟩
    rw [string, hquotes]
    rfl
  have hmap : mapLiteral sub (c :: (cs ++ rest)) = .mismatch _ := Reader.bind_mismatch (char_mismatch (hne rfl) _) _
  have hbinding : bindingName (c :: (cs ++ rest)) = .mismatch _ := Reader.bind_mismatch (char_mismatch (hne rfl) _) _
  have hlist : listLiteral sub (c :: (cs ++ rest)) = .mismatch _ := Reader.bind_mismatch (char_mismatch (hne rfl) _) _
  have hparen : bracketed '(' ')' sub (c :: (cs ++ rest)) = .mismatch _ := Reader.bind_mismatch (char_mismatch (hne rfl) _) _
  have hname : Expr.name (c :: (cs ++ rest)) = .done (.ident name) rest := Reader.bind_done hidentifier _
  rw [Expr.primary, Reader.orElse_mismatch hnumber, Reader.orElse_mismatch hstring, Reader.orElse_mismatch hkeyword,
    Reader.orElse_mismatch hmap, Reader.orElse_mismatch hbinding, Reader.orElse_mismatch hlist, Reader.orElse_mismatch hparen,
    hname]

end IsName

end SqlTemplate.Expr
