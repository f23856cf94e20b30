import Mathlib.Data.List.DropRight
import SqlTemplate.Text.Blank
import SqlTemplate.Text.Letter

/-! # Trimming and shrinking

Shrinking is trimming once every run of blanks is a single space.
-/

namespace SqlTemplate.Text

variable {c : Char} {a cs : List Char}

theorem dropWhile_self {p : Char → Bool} (h : ∀ c ∈ cs.head?, p c = false) : cs.dropWhile p = cs := by
  cases cs with
  | nil => rfl
  | cons c cs => exact List.dropWhile_cons_of_neg (by simpa using h c rfl)

/-! ## Trimming -/

theorem trimStart_append (h : ∀ c ∈ a, isBlank c = true) (cs : List Char) : trimStart (a ++ cs) = trimStart cs :=
  List.dropWhile_append_of_pos h

theorem trimStart_self (h : ∀ c ∈ cs.head?, isBlank c = false) : trimStart cs = cs := dropWhile_self h

theorem trimEnd_append (a b : List Char) :
    trimEnd (a ++ b) = if (trimEnd b).isEmpty then trimEnd a else a ++ trimEnd b := by
  unfold trimEnd
  rw [List.reverse_append, List.dropWhile_append, List.isEmpty_reverse]
  split_ifs <;> simp

theorem trimEnd_blank (h : ∀ c ∈ cs, isBlank c = true) : trimEnd cs = [] := List.rdropWhile_eq_nil_iff.2 h

theorem trimEnd_self (h : ∀ c ∈ cs.getLast?, isBlank c = false) : trimEnd cs = cs := by
  unfold trimEnd
  rw [dropWhile_self (by simpa [List.head?_reverse] using h), List.reverse_reverse]

theorem head?_of_trimEnd (h : c ∈ (trimEnd cs).head?) : c ∈ cs.head? := by
  obtain ⟨rest, hrest⟩ : trimEnd cs <+: cs := List.rdropWhile_prefix _ _
  rw [← hrest, List.head?_append, Option.mem_def.1 h]
  rfl

theorem trimEnd_trimEnd (cs : List Char) : trimEnd (trimEnd cs) = trimEnd cs := List.rdropWhile_idempotent _ _

theorem trim_around {b : List Char} (ha : ∀ c ∈ a, isBlank c = true) (hb : ∀ c ∈ b, isBlank c = true)
    (hhead : ∀ c ∈ cs.head?, isBlank c = false) (hlast : ∀ c ∈ cs.getLast?, isBlank c = false) :
    trim (a ++ cs ++ b) = cs := by
  unfold trim
  rw [List.append_assoc, trimStart_append ha]
  cases cs with
  | nil =>
    have hnil : trimStart b = [] := List.dropWhile_eq_nil_iff.2 hb
    rw [List.nil_append, hnil]
    rfl
  | cons c cs =>
    rw [trimStart_self (by simpa using hhead), trimEnd_append, trimEnd_blank hb, trimEnd_self hlast]
    rfl

theorem trim_self (hhead : ∀ c ∈ cs.head?, isBlank c = false) (hlast : ∀ c ∈ cs.getLast?, isBlank c = false) : trim cs = cs := by
  rw [trim, trimStart_self hhead, trimEnd_self hlast]

theorem getLast?_trim (cs : List Char) : ∀ c ∈ (trim cs).getLast?, isBlank c = false := by
  intro c hc
  have hne : trim cs ≠ [] := by
    intro hnil
    rw [hnil] at hc
    cases hc
  have hlast : ¬ isBlank ((trim cs).getLast hne) := List.rdropWhile_last_not isBlank (trimStart cs) hne
  rw [List.getLast?_eq_some_getLast hne] at hc
  cases hc
  exact Bool.of_not_eq_true hlast

theorem head?_trimStart (cs : List Char) : ∀ c ∈ (trimStart cs).head?, isBlank c = false := by
  intro c hc
  have hhead := List.head?_dropWhile_not isBlank cs
  unfold trimStart at hc
  rw [Option.mem_def.1 hc] at hhead
  exact hhead

theorem head?_trim (cs : List Char) : ∀ c ∈ (trim cs).head?, isBlank c = false :=
  fun c hc => head?_trimStart cs c (head?_of_trimEnd hc)

theorem trim_trim (cs : List Char) : trim (trim cs) = trim cs := trim_self (head?_trim cs) (getLast?_trim cs)

theorem head?_trimStart_eq (cs : List Char) : (trimStart cs).head? = (trim cs).head? := by
  have hhead := head?_trimStart cs
  rw [trim]
  cases hstart : trimStart cs with
  | nil => rfl
  | cons c rest =>
    rw [hstart] at hhead
    have hc : trimEnd [c] = [c] := trimEnd_self (by simpa using hhead)
    rw [← List.singleton_append, trimEnd_append, hc]
    split <;> rfl

theorem trim_trimStart (cs : List Char) : trim (trimStart cs) = trim cs := by
  rw [trim, trimStart_self (head?_trimStart cs)]
  rfl

/-- A text that begins with something visible keeps what stands before it from being blank to its end. -/
theorem trimStart_append_word {b : List Char} (h : ∀ c ∈ b.head?, isBlank c = false) (a : List Char) :
    trimStart (a ++ b) = trimStart a ++ b := by
  unfold trimStart
  rw [List.dropWhile_append]
  split
  · rename_i hempty
    rw [List.isEmpty_iff.1 hempty, List.nil_append, dropWhile_self h]
  · rfl

theorem trim_inside (cs : List Char) : trim cs <:+: cs :=
  (List.rdropWhile_prefix _ _).isInfix.trans (List.dropWhile_suffix _).isInfix

theorem eq_trim (cs : List Char) :
    ∃ before after, (∀ c ∈ before, isBlank c = true) ∧ (∀ c ∈ after, isBlank c = true) ∧ cs = before ++ (trim cs ++ after) := by
  refine ⟨cs.takeWhile isBlank, (trimStart cs).rtakeWhile isBlank, fun c hc => List.mem_takeWhile_imp hc,
    fun c hc => List.mem_rtakeWhile_imp hc, ?_⟩
  have hend : trim cs ++ (trimStart cs).rtakeWhile isBlank = trimStart cs := List.rdropWhile_append_rtakeWhile
  rw [hend, trimStart, List.takeWhile_append_dropWhile]

/-- The second text is the first with blanks around it. -/
def Padded (core cs : List Char) : Prop :=
  ∃ before after, (∀ c ∈ before, isBlank c = true) ∧ (∀ c ∈ after, isBlank c = true) ∧ cs = before ++ core ++ after

theorem padded_of_all {core : List Char} (before after : List Char) (hbefore : before.all isBlank = true)
    (hafter : after.all isBlank = true) : Padded core (before ++ core ++ after) :=
  ⟨before, after, List.all_eq_true.1 hbefore, List.all_eq_true.1 hafter, rfl⟩

theorem padded_trim (cs : List Char) : Padded (trim cs) cs := by
  obtain ⟨before, after, hbefore, hafter, heq⟩ := eq_trim cs
  exact ⟨before, after, hbefore, hafter, by rw [List.append_assoc]; exact heq⟩

theorem Padded.trim_eq {core : List Char} (h : Padded core cs) (hcore : trim core = core) : trim cs = core := by
  obtain ⟨before, after, hbefore, hafter, rfl⟩ := h
  exact trim_around hbefore hafter (hcore ▸ head?_trim core) (hcore ▸ getLast?_trim core)

/-- Blanks around a text change nothing of what is left when it is trimmed. -/
theorem trim_blanks {b : List Char} (ha : ∀ c ∈ a, isBlank c = true) (hb : ∀ c ∈ b, isBlank c = true) (cs : List Char) :
    trim (a ++ (cs ++ b)) = trim cs := by
  obtain ⟨before, after, hbefore, hafter, heq⟩ := padded_trim cs
  refine Padded.trim_eq ⟨a ++ before, after ++ b, ?_, ?_, ?_⟩ (trim_trim cs)
  · exact List.forall_mem_append.2 ⟨ha, hbefore⟩
  · exact List.forall_mem_append.2 ⟨hafter, hb⟩
  · conv_lhs => rw [heq]
    simp

theorem Padded.mem {core : List Char} (h : Padded core cs) (hmem : c ∈ cs) : isBlank c = true ∨ c ∈ core := by
  obtain ⟨before, after, hbefore, hafter, rfl⟩ := h
  rcases List.mem_append.1 hmem with hmem | hmem
  · exact (List.mem_append.1 hmem).imp_left (hbefore c)
  · exact .inl (hafter c hmem)

theorem mem_trim (hc : isBlank c = false) (hmem : c ∈ cs) : c ∈ trim cs := by
  obtain ⟨before, after, hbefore, hafter, heq⟩ := eq_trim cs
  rw [heq, List.mem_append, List.mem_append] at hmem
  rcases hmem with hmem | hmem | hmem
  · simp [hbefore c hmem] at hc
  · exact hmem
  · simp [hafter c hmem] at hc

theorem trim_eq_nil : trim cs = [] ↔ ∀ c ∈ cs, isBlank c = true := by
  constructor
  · intro h c hc
    by_contra hnot
    have hmem := mem_trim (Bool.of_not_eq_true hnot) hc
    rw [h] at hmem
    cases hmem
  · intro h
    rw [trim, show trimStart cs = [] from List.dropWhile_eq_nil_iff.2 h]
    rfl

/-! ## Shrinking -/

/-- Every run of blanks is one space. -/
def squeeze : List Char → List Char
  | [] => []
  | c :: cs =>
    if isBlank c then if cs.head?.any isBlank then squeeze cs else ' ' :: squeeze cs
    else c :: squeeze cs

theorem squeeze_cons_word (h : isBlank c = false) : squeeze (c :: cs) = c :: squeeze cs := by
  rw [squeeze, if_neg (by simp [h])]

theorem squeeze_append_word (h : ∀ c ∈ a, isBlank c = false) : squeeze (a ++ cs) = a ++ squeeze cs := by
  induction a with
  | nil => rfl
  | cons c a ih =>
    rw [List.forall_mem_cons] at h
    rw [List.cons_append, squeeze_cons_word h.1, ih h.2, List.cons_append]

theorem squeeze_append_blank (h : ∀ c ∈ a, isBlank c = true) (hne : a ≠ []) (hhead : ∀ c ∈ cs.head?, isBlank c = false) :
    squeeze (a ++ cs) = ' ' :: squeeze cs := by
  induction a with
  | nil => exact absurd rfl hne
  | cons c a ih =>
    rw [List.forall_mem_cons] at h
    rw [List.cons_append, squeeze, if_pos h.1]
    cases a with
    | nil =>
      rw [List.nil_append, if_neg]
      cases cs with
      | nil => simp
      | cons d cs => simpa using hhead d rfl
    | cons d a =>
      rw [if_pos (by simpa using h.2 d List.mem_cons_self), ih h.2 (by simp)]

theorem words_blank (h : trimStart cs = []) : words cs = [] := by
  rw [words]
  split <;> simp_all

theorem words_word {rest : List Char} (h : trimStart cs = c :: rest) :
    words cs = (c :: rest.takeWhile (!isBlank ·)) :: words (rest.dropWhile (!isBlank ·)) := by
  rw [words]
  split <;> simp_all

theorem head?_squeeze (h : ∀ c ∈ cs.head?, isBlank c = false) : ∀ c ∈ (squeeze cs).head?, isBlank c = false := by
  cases cs with
  | nil => exact h
  | cons c cs =>
    rw [squeeze_cons_word (h c rfl)]
    exact h

theorem squeeze_cons_blank (h : isBlank c = true) (cs : List Char) : squeeze (c :: cs) = ' ' :: squeeze (trimStart cs) := by
  have hrun : ∀ d ∈ c :: cs.takeWhile isBlank, isBlank d = true :=
    List.forall_mem_cons.2 ⟨h, fun d hd => List.mem_takeWhile_imp hd⟩
  have hsqueeze := squeeze_append_blank hrun (by simp) (head?_trimStart cs)
  rwa [List.cons_append, show cs.takeWhile isBlank ++ trimStart cs = cs from List.takeWhile_append_dropWhile] at hsqueeze

theorem squeeze_append {b : List Char} (h : ∀ c ∈ b.head?, isBlank c = false) (a : List Char) :
    squeeze (a ++ b) = squeeze a ++ squeeze b := by
  induction a with
  | nil => rfl
  | cons c a ih =>
    have hhead : (a ++ b).head?.any isBlank = a.head?.any isBlank := by
      cases a with
      | nil =>
        cases b with
        | nil => rfl
        | cons d b => simpa using h d rfl
      | cons d a => rfl
    rw [List.cons_append, squeeze, squeeze, hhead, ih]
    split_ifs <;> rfl

theorem squeeze_append_last {b : List Char} (h : ∀ c ∈ a.getLast?, isBlank c = false) :
    squeeze (a ++ b) = squeeze a ++ squeeze b := by
  induction a with
  | nil => rfl
  | cons c a ih =>
    cases a with
    | nil =>
      rw [squeeze_cons_word (h c rfl)]
      exact squeeze_cons_word (h c rfl)
    | cons d a =>
      rw [List.getLast?_cons_cons] at h
      have hhead : (d :: a ++ b).head? = (d :: a).head? := rfl
      rw [List.cons_append, squeeze, squeeze, hhead, ih h]
      split_ifs <;> rfl

theorem squeeze_cons_space (h : isBlank c = true) (cs : List Char) :
    squeeze (c :: cs) = squeeze cs ∨ squeeze (c :: cs) = ' ' :: squeeze cs := by
  rw [squeeze, if_pos h]
  split_ifs
  · exact .inl rfl
  · exact .inr rfl

theorem squeeze_ne_nil (h : cs ≠ []) : squeeze cs ≠ [] := by
  cases cs with
  | nil => exact absurd rfl h
  | cons c cs =>
    cases hc : isBlank c with
    | true => rw [squeeze_cons_blank hc]; simp
    | false => rw [squeeze_cons_word hc]; simp

theorem head?_squeeze_of (h : (squeeze cs).head? = some c) (hc : isBlank c = false) : cs.head? = some c := by
  cases cs with
  | nil => exact h
  | cons d cs =>
    cases hd : isBlank d with
    | true =>
      rw [squeeze_cons_blank hd] at h
      cases h
      cases hc
    | false =>
      rw [squeeze_cons_word hd] at h
      exact h

theorem getLast?_squeeze_of (h : (squeeze cs).getLast? = some c) (hc : isBlank c = false) : cs.getLast? = some c := by
  induction cs with
  | nil => exact h
  | cons d cs ih =>
    cases cs with
    | nil =>
      cases hd : isBlank d with
      | true =>
        rw [squeeze_cons_blank hd] at h
        cases h
        cases hc
      | false => rwa [squeeze_cons_word hd] at h
    | cons e cs =>
      have hne := squeeze_ne_nil (List.cons_ne_nil e cs)
      rw [List.getLast?_cons_cons]
      refine ih ?_
      rw [squeeze] at h
      split_ifs at h
      · exact h
      · rwa [List.getLast?_cons_of_ne_nil hne] at h
      · rwa [List.getLast?_cons_of_ne_nil hne] at h

theorem getLast?_squeeze (h : ∀ c ∈ cs.getLast?, isBlank c = false) : ∀ c ∈ (squeeze cs).getLast?, isBlank c = false := by
  induction cs using List.reverseRecOn with
  | nil => exact h
  | append_singleton cs c _ =>
    have hc := h c List.getLast?_concat
    rw [squeeze_append (by simpa using hc), squeeze_cons_word hc]
    intro d hd
    rw [squeeze, List.getLast?_concat] at hd
    cases hd
    exact hc

/-- What is not blank parts the text before and after shrinking. -/
theorem append_of_squeeze {b : List Char} (hc : isBlank c = false) (h : squeeze cs = a ++ c :: b) :
    ∃ a' b', cs = a' ++ c :: b' ∧ squeeze a' = a ∧ squeeze b' = b := by
  obtain ⟨a', b', rfl, rfl⟩ : ∃ a' b', cs = a' ++ c :: b' ∧ squeeze b' = b := by
    induction cs generalizing a with
    | nil => simp [squeeze] at h
    | cons d cs ih =>
      have hlater {a : List Char} (h : squeeze cs = a ++ c :: b) : ∃ a' b', d :: cs = a' ++ c :: b' ∧ squeeze b' = b := by
        obtain ⟨a', b', rfl, hb⟩ := ih h
        exact ⟨d :: a', b', rfl, hb⟩
      cases hd : isBlank d with
      | true =>
        -- A blank is dropped or becomes the space before what follows.
        rcases squeeze_cons_space hd cs with heq | heq <;> rw [heq] at h
        · exact hlater h
        · cases a with
          | nil =>
            cases h
            cases hc
          | cons e a => exact hlater (List.cons.inj h).2
      | false =>
        rw [squeeze_cons_word hd] at h
        cases a with
        | nil =>
          cases h
          exact ⟨[], cs, rfl, rfl⟩
        | cons e a => exact hlater (List.cons.inj h).2
  have hhead : ∀ d ∈ (c :: b').head?, isBlank d = false := fun d hd => by
    cases hd
    exact hc
  rw [squeeze_append hhead, squeeze_cons_word hc] at h
  exact ⟨a', b', rfl, List.append_cancel_right h, rfl⟩

/-- A run up to something other than a blank is the same run shrunk. -/
theorem takeWhile_squeeze {p : Char → Bool} (hp : ∀ c, isBlank c = true → p c = true) (cs : List Char) :
    (squeeze cs).takeWhile p = squeeze (cs.takeWhile p) := by
  induction cs with
  | nil => rfl
  | cons c cs ih =>
    cases hc : isBlank c with
    | true =>
      have hhead : (cs.takeWhile p).head?.any isBlank = cs.head?.any isBlank := by
        cases cs with
        | nil => rfl
        | cons d cs => cases hd : isBlank d <;> cases hpd : p d <;> simp_all
      rw [List.takeWhile_cons_of_pos (hp c hc), squeeze, squeeze, if_pos hc, if_pos hc, hhead]
      split_ifs
      · exact ih
      · rw [List.takeWhile_cons_of_pos (hp ' ' rfl), ih]
    | false =>
      rw [squeeze_cons_word hc]
      cases hpc : p c with
      | true => rw [List.takeWhile_cons_of_pos hpc, List.takeWhile_cons_of_pos hpc, squeeze_cons_word hc, ih]
      | false => rw [List.takeWhile_cons_of_neg (by simp [hpc]), List.takeWhile_cons_of_neg (by simp [hpc])]; rfl

theorem mem_squeeze (h : c ∈ squeeze cs) : c = ' ' ∨ c ∈ cs := by
  induction cs with
  | nil => exact .inr h
  | cons d cs ih =>
    rw [squeeze] at h
    split_ifs at h
    · exact (ih h).imp_right (List.mem_cons_of_mem _)
    · exact (List.mem_cons.1 h).elim .inl fun h => (ih h).imp_right (List.mem_cons_of_mem _)
    · exact (List.mem_cons.1 h).elim (fun h => .inr (h ▸ List.mem_cons_self)) fun h => (ih h).imp_right (List.mem_cons_of_mem _)

theorem trimStart_squeeze (cs : List Char) : trimStart (squeeze cs) = squeeze (trimStart cs) := by
  have hself := trimStart_self (head?_squeeze (head?_trimStart cs))
  cases cs with
  | nil => rfl
  | cons c cs =>
    cases h : isBlank c with
    | true =>
      have hstart : trimStart (c :: cs) = trimStart cs := List.dropWhile_cons_of_pos h
      rw [hstart] at hself ⊢
      rw [squeeze_cons_blank h]
      exact (List.dropWhile_cons_of_pos (p := isBlank) (a := ' ') (by decide)).trans hself
    | false =>
      have hstart : trimStart (c :: cs) = c :: cs := List.dropWhile_cons_of_neg (by simp [h])
      rwa [hstart] at hself ⊢

theorem trim_squeeze (cs : List Char) : trim (squeeze cs) = trimEnd (squeeze (trimStart cs)) := by
  rw [trim, trimStart_squeeze]

theorem squeeze_trim (cs : List Char) : squeeze (trim cs) = trim (squeeze cs) := by
  have hblank : ∀ c ∈ squeeze ((trimStart cs).rtakeWhile isBlank), isBlank c = true := fun c hc => by
    rcases mem_squeeze hc with rfl | hc
    · rfl
    · exact List.mem_rtakeWhile_imp hc
  have hend : trim cs ++ (trimStart cs).rtakeWhile isBlank = trimStart cs := List.rdropWhile_append_rtakeWhile
  have hlast := trimEnd_self (getLast?_squeeze (getLast?_trim cs))
  rw [trim_squeeze, ← hend, squeeze_append_last (getLast?_trim cs), trimEnd_append, trimEnd_blank hblank]
  exact hlast.symm

theorem intercalate_word {word : List Char} {rest : List Char} :
    [' '].intercalate (word :: words rest) =
      if (shrink rest).isEmpty then word else word ++ ' ' :: shrink rest := by
  unfold shrink
  cases h : trimStart rest with
  | nil =>
    rw [words_blank h]
    simp [List.intercalate]
  | cons c cs =>
    rw [words_word h, if_neg]
    · rfl
    · cases words (cs.dropWhile (!isBlank ·)) <;> simp [List.intercalate]

/-- Shrinking a text is trimming it and making every run of blanks in it one space. -/
theorem shrink_eq (cs : List Char) : shrink cs = trim (squeeze cs) := by
  induction hn : cs.length using Nat.strongRecOn generalizing cs with
  | _ n ih =>
    rw [trim_squeeze]
    cases hstart : trimStart cs with
    | nil =>
      rw [shrink, words_blank hstart]
      rfl
    | cons c rest =>
      have hc : isBlank c = false := head?_trimStart cs c (by rw [hstart]; rfl)
      have hword : ∀ d ∈ c :: rest.takeWhile (!isBlank ·), isBlank d = false :=
        List.forall_mem_cons.2 ⟨hc, fun d hd => by simpa using List.mem_takeWhile_imp hd⟩
      have hlast : trimEnd (c :: rest.takeWhile (!isBlank ·)) = c :: rest.takeWhile (!isBlank ·) :=
        trimEnd_self fun d hd => hword d (List.mem_of_mem_getLast? hd)
      have hlen : (rest.dropWhile (!isBlank ·)).length < n := by
        have hdrop := (List.dropWhile_suffix (!isBlank ·) (l := rest)).length_le
        have hstart' := (List.dropWhile_suffix isBlank (l := cs)).length_le
        rw [show cs.dropWhile isBlank = c :: rest from hstart, List.length_cons] at hstart'
        omega
      have hsplit : c :: rest = c :: rest.takeWhile (!isBlank ·) ++ rest.dropWhile (!isBlank ·) := by simp
      rw [shrink, words_word hstart, intercalate_word, ih _ hlen _ rfl, hsplit, squeeze_append_word hword, trimEnd_append,
        hlast]
      -- What follows the word is empty or begins with a blank.
      cases hafter : rest.dropWhile (!isBlank ·) with
      | nil => rfl
      | cons d after =>
        have hd : isBlank d = true := by
          have hhead := List.head?_dropWhile_not (!isBlank ·) rest
          simpa [hafter] using hhead
        have hstart' : trimStart (d :: after) = trimStart after := List.dropWhile_cons_of_pos hd
        rw [trim_squeeze, hstart', squeeze_cons_blank hd, show ' ' :: squeeze (trimStart after) = [' '] ++ squeeze (trimStart after) from rfl,
          trimEnd_append]
        cases trimEnd (squeeze (trimStart after)) with
        | nil => rfl
        | cons e es => rfl

/-! ## Names -/

/-- The code points of the blanks. -/
def blankCodes : List Nat :=
  [9, 10, 11, 12, 13, 0x20, 0x85, 0xA0, 0x1680, 0x2000, 0x2001, 0x2002, 0x2003, 0x2004, 0x2005, 0x2006, 0x2007, 0x2008, 0x2009,
    0x200A, 0x2028, 0x2029, 0x202F, 0x205F, 0x3000]

theorem toNat_of_isBlank (h : isBlank c = true) : c.toNat ∈ blankCodes := by
  unfold isBlank at h
  simp only [Bool.or_eq_true, Bool.and_eq_true, decide_eq_true_eq, beq_iff_eq] at h
  simp only [blankCodes, List.mem_cons, List.not_mem_nil, or_false]
  omega

theorem isBlank_of_isNameChar (h : isNameChar c = true) : isBlank c = false := by
  by_contra hblank
  have hmem := toNat_of_isBlank (Bool.of_not_eq_false hblank)
  have hnames : ∀ n ∈ blankCodes, isNameChar (Char.ofNat n) = false := by decide +kernel
  rw [← Char.ofNat_toNat c, hnames _ hmem] at h
  cases h

theorem isGap_of_isNameChar (h : isNameChar c = true) : isGap c = false := by
  by_contra hgap
  have hblank := isBlank_of_isGap c (Bool.of_not_eq_false hgap)
  rw [isBlank_of_isNameChar h] at hblank
  cases hblank

theorem isNameChar_of_isDigit (h : c.isDigit = true) : isNameChar c = true := by
  have hascii : c.toNat < 128 := by
    have hbound := h
    simp only [Char.isDigit, Bool.and_eq_true, decide_eq_true_eq, UInt32.le_iff_toNat_le] at hbound
    exact lt_of_le_of_lt hbound.2 (by decide)
  have hnumeric : isNumeric c = true := by rw [isNumeric, if_pos hascii, h]
  rw [isNameChar, isAlphanumeric, hnumeric, Bool.or_true, Bool.true_or, Bool.true_or]

theorem isBlank_of_isDigit (h : c.isDigit = true) : isBlank c = false := isBlank_of_isNameChar (isNameChar_of_isDigit h)

end SqlTemplate.Text
