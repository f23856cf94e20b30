import SqlTemplate.Proofs.Expr.Grouping
import SqlTemplate.Proofs.Expr.RoundTrip

/-! # Operands with operators between them

Names and integers with operators between them and no parentheses. However the operators are written, such a text is read as the
one tree in which tighter operators group first and operators of one level from the left.
-/

namespace SqlTemplate

/-- The spelling of an operator that needs no gaps around it. -/
def BinaryOp.marks? : BinaryOp → Option (List Char)
  | .or => some ['|', '|']
  | .and => some ['&', '&']
  | .eq => some ['=', '=']
  | .ne => some ['!', '=']
  | .lt => some ['<']
  | .le => some ['<', '=']
  | .gt => some ['>']
  | .ge => some ['>', '=']
  | .isIn | .notIn => none
  | .add => some ['+']
  | .sub => some ['-']
  | .mul => some ['*']
  | .div => some ['/']
  | .rem => some ['%']

/-- The spelling of an operator as one word. -/
def BinaryOp.word? : BinaryOp → Option (List Char)
  | .or => some ['o', 'r']
  | .and => some ['a', 'n', 'd']
  | .eq => some ['e', 'q']
  | .ne => some ['n', 'e', 'q']
  | .lt => some ['l', 't']
  | .le => some ['l', 't', 'e']
  | .gt => some ['g', 't']
  | .ge => some ['g', 't', 'e']
  | .isIn => some ['i', 'n']
  | _ => none

namespace Expr

open Text

/-! ## What is written -/

/-- Gaps, perhaps none. -/
def Gaps (s : List Char) : Prop := ∀ c ∈ s, isGap c = true

/-- An operator and the gaps around it. Around a word there is at least one. -/
inductive OperatorText : BinaryOp → List Char → Prop
  | marks {op : BinaryOp} {m before after : List Char} (hmarks : op.marks? = some m) (hbefore : Gaps before) (hafter : Gaps after) :
    OperatorText op (before ++ (m ++ after))
  | word {op : BinaryOp} {w before after : List Char} (hword : op.word? = some w) (hbefore : Gaps before) (hafter : Gaps after)
    (hapart : before ≠ [] ∧ after ≠ []) : OperatorText op (before ++ (w ++ after))
  | notIn {before between after : List Char} (hbefore : Gaps before) (hbetween : Gaps between) (hafter : Gaps after)
    (hapart : before ≠ [] ∧ between ≠ [] ∧ after ≠ []) :
    OperatorText .notIn (before ++ (['n', 'o', 't'] ++ between ++ ['i', 'n'] ++ after))

/-- A name that is no word for something else, or the digits of an integer that 64 bits hold. -/
inductive OperandText : Expr → List Char → Prop
  | name {name : String} (hname : IsName name) (hfree : name ∉ reserved) : OperandText (.ident name) name.toList
  | integer {digits : List Char} {n : Int64} (hne : digits ≠ []) (hdigits : ∀ c ∈ digits, c.isDigit = true)
    (hn : n.toInt = Nat.ofDigitChars 10 digits 0) : OperandText (.literal (.int n)) digits

inductive LinksText : Links → List Char → Prop
  | nil : LinksText [] []
  | cons {op : BinaryOp} {e : Expr} {links : Links} {o t s : List Char} (ho : OperatorText op o) (ht : OperandText e t)
    (hs : LinksText links s) : LinksText ((op, e) :: links) (o ++ (t ++ s))

/-- A first operand and more of them after operators, with blanks around the whole. -/
inductive ChainText (first : Expr) (links : Links) : List Char → Prop
  | mk {before t s after : List Char} (hbefore : ∀ c ∈ before, isBlank c = true) (hfirst : OperandText first t)
    (hlinks : LinksText links s) (hafter : ∀ c ∈ after, isBlank c = true) : ChainText first links (before ++ (t ++ s) ++ after)

variable {op : BinaryOp} {e first : Expr} {links : Links} {o t s rest : List Char} {limit : Nat}

/-! ## Operands -/

theorem OperandText.chars (h : OperandText e t) : t ≠ [] ∧ ∀ c ∈ t, isNameChar c = true := by
  cases h with
  | name hname hfree =>
    have hchars := hname.chars
    obtain ⟨c, cs, heq, -⟩ := hname
    exact ⟨by simp [heq], hchars⟩
  | integer hne hdigits hn => exact ⟨hne, fun c hc => isNameChar_of_isDigit (hdigits c hc)⟩

theorem OperandText.startsWithName (h : OperandText e t) (s : List Char) : startsWithName (t ++ s) = true := by
  obtain ⟨hne, hchars⟩ := h.chars
  obtain ⟨c, cs, rfl⟩ := List.exists_cons_of_ne_nil hne
  exact hchars c List.mem_cons_self

theorem OperandText.read (h : OperandText e t) (hrest : Apart rest) (sub : Parser Expr) :
    unaries (postfixed sub) (t ++ rest) = .done e rest := by
  suffices hread : takeUnary? (t ++ rest) = none ∧ primary sub (t ++ rest) = .done e rest by
    rw [unaries_none hread.1, postfixed, hread.2]
    exact hrest.steps sub _ e
  cases h with
  | @name name hname hfree =>
    have hnot : name ≠ "not" := fun heq => hfree (by rw [heq]; decide)
    exact ⟨hname.takeUnary? hnot hrest.detached, hname.primary hfree hrest.detached sub⟩
  | @integer _ n hne hdigits hn =>
    constructor
    · obtain ⟨c, cs, rfl⟩ := List.exists_cons_of_ne_nil hne
      exact takeUnary?_digit (hdigits c List.mem_cons_self) _
    · have hnumber := number_run hne hdigits hrest.detached
      rw [← hn, Number.toInt64?_toInt] at hnumber
      rw [primary, Reader.orElse_done hnumber]

/-! ## Operators -/

/-- What an operator is for the levels: its own level takes it, and a tighter one takes nothing there. -/
structure Taken (op : BinaryOp) (s after : List Char) : Prop where
  level : ∀ l ls, levels.drop op.levelNumber = l :: ls → takeOperator? l s = some (op, after)
  tighter : ∀ l ∈ levels.drop (op.levelNumber + 1), takeOperator? l s = none

theorem taken_of_map {after : List Char}
    (h : (levels.drop op.levelNumber).map (takeOperator? · s) =
      some (op, after) :: (levels.drop (op.levelNumber + 1)).map fun _ => none) : Taken op s after where
  level l ls hlevels := by
    rw [hlevels, List.map_cons, List.cons.injEq] at h
    exact h.1
  tighter := by
    have htail := congrArg List.tail h
    rw [← List.map_tail, List.tail_drop, List.tail_cons] at htail
    exact List.map_inj_left.1 htail

theorem Gaps.skip {before : List Char} (h : Gaps before) (s : List Char) : skipGaps (before ++ s) = skipGaps s :=
  List.dropWhile_append_of_pos h

theorem skipGaps_name (h : startsWithName s = true) : skipGaps s = s := by
  refine skipGaps_self fun c hc => isGap_of_isNameChar ?_
  rwa [startsWithName, Option.mem_def.1 hc] at h

theorem takeOperator?_found {before later : List Operator} {o : Operator} {after : List Char}
    (hbefore : takeOperator? before s = none) (h : afterWords? o.words s = some after) :
    takeOperator? (before ++ o :: later) s = some (o.op, after) := by
  unfold takeOperator? at hbefore ⊢
  rw [List.findSome?_append, hbefore, Option.none_or, List.findSome?_cons, h]
  rfl

/-- An equals sign after the marks would make them those of another operator. -/
theorem taken_marks {m after : List Char} (hmarks : op.marks? = some m) (hafter : after.head? ≠ some '=') :
    skipGaps (m ++ after) = m ++ after ∧ Taken op (m ++ after) after := by
  have hequals : after? ['='] after = none := by
    cases after with
    | nil => rfl
    | cons c after => exact if_neg fun heq => hafter (by rw [← heq]; rfl)
  have hlonger (m : Char) : afterWords? [[m, '=']] (m :: after) = none := by
    simp only [afterWords?, afterWord?, after?, if_true, hequals]
  cases op with
  | lt =>
    cases hmarks
    have hbefore : takeOperator? [⟨[['<', '=']], .le⟩, ⟨[['>', '=']], .ge⟩] ('<' :: after) = none := by
      simp only [takeOperator?, List.findSome?_cons, hlonger]
      rfl
    exact ⟨rfl, taken_of_map (congrArg (· :: [none, none]) (takeOperator?_found hbefore rfl))⟩
  | gt =>
    cases hmarks
    have hbefore : takeOperator? [⟨[['<', '=']], .le⟩, ⟨[['>', '=']], .ge⟩, ⟨[['<']], .lt⟩] ('>' :: after) = none := by
      simp only [takeOperator?, List.findSome?_cons, hlonger]
      rfl
    exact ⟨rfl, taken_of_map (congrArg (· :: [none, none]) (takeOperator?_found hbefore rfl))⟩
  | isIn | notIn => cases hmarks
  | _ =>
    cases hmarks
    exact ⟨rfl, taken_of_map rfl⟩

/-- The four gaps told apart, so that what follows a word is known. -/
theorem gap_cases {c : Char} (h : isGap c = true) : c = ' ' ∨ c = '\t' ∨ c = '\r' ∨ c = '\n' := by
  simpa [isGap, or_assoc] using h

theorem taken_word {w : List Char} {c : Char} (hword : op.word? = some w) (hc : isGap c = true) (after : List Char) :
    skipGaps (w ++ c :: after) = w ++ c :: after ∧ Taken op (w ++ c :: after) (c :: after) := by
  cases op with
  | notIn | add | sub | mul | div | rem => cases hword
  | _ =>
    cases hword
    rcases gap_cases hc with rfl | rfl | rfl | rfl
    all_goals exact ⟨rfl, taken_of_map rfl⟩

theorem taken_notIn {between : List Char} {c : Char} (hbetween : Gaps between) (hne : between ≠ []) (hc : isGap c = true)
    (after : List Char) :
    Taken .notIn (['n', 'o', 't'] ++ (between ++ (['i', 'n'] ++ c :: after))) (c :: after) := by
  obtain ⟨d, between, rfl⟩ := List.exists_cons_of_ne_nil hne
  have hskip : skipGaps ((d :: between) ++ (['i', 'n'] ++ c :: after)) = ['i', 'n'] ++ c :: after := hbetween.skip _
  have hin : afterWord? ['i', 'n'] (['i', 'n'] ++ c :: after) = some (c :: after) := by
    rcases gap_cases hc with rfl | rfl | rfl | rfl <;> rfl
  have hd : isGap d = true := hbetween d List.mem_cons_self
  have hnot : afterWord? ['n', 'o', 't'] (['n', 'o', 't'] ++ (d :: between ++ (['i', 'n'] ++ c :: after))) =
      some (d :: between ++ (['i', 'n'] ++ c :: after)) := by
    rcases gap_cases hd with rfl | rfl | rfl | rfl <;> rfl
  have hwords : afterWords? [['n', 'o', 't'], ['i', 'n']] (['n', 'o', 't'] ++ (d :: between ++ (['i', 'n'] ++ c :: after))) =
      some (c :: after) := by
    simp only [afterWords?, hnot, hskip, hin]
    exact if_pos hd
  have hbefore : takeOperator? (levels[3].take 8) (['n', 'o', 't'] ++ (d :: between ++ (['i', 'n'] ++ c :: after))) = none := rfl
  exact taken_of_map (congrArg (· :: [none, none]) (takeOperator?_found hbefore hwords))

theorem head_ne_equals {after : List Char} (hafter : Gaps after) (hrest : startsWithName rest = true) :
    (after ++ rest).head? ≠ some '=' := by
  cases after with
  | nil =>
    intro heq
    rw [List.nil_append] at heq
    rw [startsWithName, heq] at hrest
    cases hrest
  | cons c after =>
    intro heq
    cases heq
    exact absurd (hafter '=' List.mem_cons_self) (by decide)

theorem OperatorText.taken (h : OperatorText op o) (hrest : startsWithName rest = true) :
    ∃ after, skipGaps after = rest ∧ Taken op (skipGaps (o ++ rest)) after := by
  have hskip {after : List Char} (hafter : Gaps after) : skipGaps (after ++ rest) = rest :=
    (hafter.skip rest).trans (skipGaps_name hrest)
  cases h with
  | @marks _ m before after hmarks hbefore hafter =>
    obtain ⟨hself, htaken⟩ := taken_marks hmarks (head_ne_equals hafter hrest)
    refine ⟨after ++ rest, hskip hafter, ?_⟩
    rw [List.append_assoc, hbefore.skip, List.append_assoc, hself]
    exact htaken
  | @word _ w before after hword hbefore hafter hapart =>
    obtain ⟨c, after, rfl⟩ := List.exists_cons_of_ne_nil hapart.2
    obtain ⟨hself, htaken⟩ := taken_word hword (hafter c List.mem_cons_self) (after ++ rest)
    refine ⟨c :: after ++ rest, hskip hafter, ?_⟩
    rw [List.append_assoc, hbefore.skip, List.append_assoc, List.cons_append, hself]
    exact htaken
  | @notIn before between after hbefore hbetween hafter hapart =>
    obtain ⟨c, after, rfl⟩ := List.exists_cons_of_ne_nil hapart.2.2
    have htaken := taken_notIn hbetween hapart.2.1 (hafter c List.mem_cons_self) (after ++ rest)
    refine ⟨c :: after ++ rest, hskip hafter, ?_⟩
    rw [List.append_assoc, hbefore.skip, List.append_assoc, List.append_assoc, List.append_assoc, List.cons_append]
    exact htaken

/-- An operator does not go on with the operand before it. -/
theorem OperatorText.apart (h : OperatorText op o) (rest : List Char) : o ≠ [] ∧ Apart (o ++ rest) := by
  have hgap {before : List Char} (hbefore : Gaps before) (hne : before ≠ []) (s : List Char) :
      before ++ s ≠ [] ∧ Apart (before ++ s ++ rest) := by
    obtain ⟨c, before, rfl⟩ := List.exists_cons_of_ne_nil hne
    refine ⟨by simp, ?_⟩
    rintro d ⟨⟩
    rcases gap_cases (hbefore c List.mem_cons_self) with rfl | rfl | rfl | rfl <;> decide
  cases h with
  | @marks _ m before after hmarks hbefore hafter =>
    cases before with
    | nil =>
      cases op with
      | isIn | notIn => cases hmarks
      | _ =>
        cases hmarks
        refine ⟨by simp, ?_⟩
        rintro d ⟨⟩
        decide
    | cons c before => exact hgap hbefore (by simp) _
  | word hword hbefore hafter hapart => exact hgap hbefore hapart.1 _
  | notIn hbefore hbetween hafter hapart => exact hgap hbefore hapart.1 _

/-! ## Reading links -/

theorem LinksText.apart (h : LinksText links s) : Apart s := by
  cases h with
  | nil => simp [Apart]
  | cons ho ht hs => exact (ho.apart _).2

theorem LinksText.length_le (h : LinksText links s) : links.length ≤ s.length := by
  induction h with
  | nil => exact le_refl _
  | cons ho ht hs ih =>
    have hpos := List.length_pos_iff.2 (ho.apart []).1
    simp only [List.length_cons, List.length_append]
    omega

/-- What reading from a level on makes of an operand and the links after it. It takes the links up to the first operator that is
looser than the level, and leaves the text of the others. -/
structure TakenFrom (k : Nat) (first : Expr) (links : Links) (tree : Expr) (rest : List Char) : Prop where
  grouped : tree.Grouped
  first : tree.inOrder.1 = first
  tight : ∀ link ∈ tree.inOrder.2, k ≤ link.1.levelNumber
  later : ∃ later, links = tree.inOrder.2 ++ later ∧ LinksText later rest ∧ ∀ link ∈ later.head?, link.1.levelNumber < k

/-- The loop of one level keeps its tree grouped. It goes on with the operators of the level, each with all that is tighter after
it as the right operand. -/
theorem chain_takenFrom {k : Nat} {l : List Operator} {ls : List (List Operator)} (hlevels : levels.drop k = l :: ls)
    {operand : Parser Expr}
    (hoperand : ∀ {e t links s}, OperandText e t → LinksText links s →
      ∃ tree rest, operand (t ++ s) = .done tree rest ∧ TakenFrom (k + 1) e links tree rest)
    {fuel : Nat} {left : Expr} {later : Links} (hfuel : later.length ≤ fuel) (hlater : LinksText later s)
    (hhead : ∀ link ∈ later.head?, link.1.levelNumber < k + 1) (hgrouped : left.Grouped)
    (htight : ∀ link ∈ left.inOrder.2, k ≤ link.1.levelNumber) :
    ∃ tree rest, chain l operand fuel left s = .done tree rest ∧ TakenFrom k left.inOrder.1 (left.inOrder.2 ++ later) tree rest := by
  induction fuel generalizing left later s with
  | zero =>
    obtain rfl := List.length_eq_zero_iff.1 (Nat.le_zero.1 hfuel)
    exact ⟨left, s, rfl, hgrouped, rfl, htight, [], rfl, hlater, by simp⟩
  | succ fuel ih =>
    have hmem : l ∈ levels.drop k := by simp [hlevels]
    cases hlater with
    | nil =>
      have hnone : takeOperator? l (skipGaps []) = none :=
        Closed.takeOperator? (by simp [Closed, skipGaps]) l (List.mem_of_mem_drop hmem)
      refine ⟨left, [], ?_, hgrouped, rfl, htight, [], rfl, .nil, by simp⟩
      simp only [chain, hnone]
    | @cons op e later o t s ho ht hs =>
      obtain ⟨after, hafter, htaken⟩ := ho.taken (ht.startsWithName s)
      by_cases hlevel : op.levelNumber < k
      · -- A looser operator: the tree stays as it is.
        have hnone : takeOperator? l (skipGaps (o ++ (t ++ s))) = none := by
          refine htaken.tighter l ?_
          rw [show k = op.levelNumber + 1 + (k - (op.levelNumber + 1)) by omega, ← List.drop_drop] at hmem
          exact List.mem_of_mem_drop hmem
        refine ⟨left, _, ?_, hgrouped, rfl, htight, _, rfl, .cons ho ht hs, ?_⟩
        · simp only [chain, hnone]
        · rintro link ⟨⟩
          exact hlevel
      · have hk : op.levelNumber = k := by
          have hle := hhead _ rfl
          dsimp only at hle
          omega
        subst hk
        obtain ⟨right, rest, hright, hfrom⟩ := hoperand ht hs
        obtain ⟨later', rfl, hrest, hhead'⟩ := hfrom.later
        have hbinary : (binary left op right).Grouped := ⟨hgrouped, hfrom.grouped, htight, hfrom.tight⟩
        have hinOrder := inOrder_binary left op right
        rw [hfrom.first] at hinOrder
        have htight' : ∀ link ∈ (binary left op right).inOrder.2, op.levelNumber ≤ link.1.levelNumber := by
          rw [hinOrder]
          intro link hlink
          rcases List.mem_append.1 hlink with hlink | hlink
          · exact htight link hlink
          · rcases List.mem_cons.1 hlink with rfl | hlink
            · exact le_refl _
            · exact Nat.le_of_succ_le (hfrom.tight link hlink)
        have hfuel' : later'.length ≤ fuel := by
          simp only [List.length_cons, List.length_append] at hfuel
          omega
        obtain ⟨tree, rest', hchain, hfrom'⟩ := ih hfuel' hrest hhead' hbinary htight'
        refine ⟨tree, rest', ?_, ?_⟩
        · simp only [chain, htaken.level l ls hlevels, hafter, hright, hchain]
        · rw [hinOrder] at hfrom'
          simpa using hfrom'

theorem binaries_takenFrom (sub : Parser Expr) {k : Nat} {ls : List (List Operator)} (hlevels : levels.drop k = ls)
    (ht : OperandText e t) (hs : LinksText links s) :
    ∃ tree rest, binaries ls (unaries (postfixed sub)) (t ++ s) = .done tree rest ∧ TakenFrom k e links tree rest := by
  induction ls generalizing k e t links s with
  | nil =>
    have htree : e.inOrder = (e, []) ∧ e.Grouped := by
      cases ht <;> exact ⟨rfl, trivial⟩
    refine ⟨e, s, ht.read hs.apart sub, htree.2, by rw [htree.1], by simp [htree.1], links, by simp [htree.1], hs, ?_⟩
    intro link _
    have hlength : levels.length ≤ k := List.drop_eq_nil_iff.1 hlevels
    have hlevel : link.1.levelNumber < levels.length := by cases link.1 <;> decide
    omega
  | cons l ls ih =>
    have htail : levels.drop (k + 1) = ls := by rw [← List.tail_drop, hlevels, List.tail_cons]
    obtain ⟨left, rest, hleft, hfrom⟩ := ih htail ht hs
    obtain ⟨later, rfl, hlater, hhead⟩ := hfrom.later
    obtain ⟨tree, rest', hchain, hfrom'⟩ := chain_takenFrom hlevels (fun ht hs => ih htail ht hs) hlater.length_le hlater hhead
      hfrom.grouped fun link hlink => Nat.le_of_succ_le (hfrom.tight link hlink)
    refine ⟨tree, rest', ?_, ?_⟩
    · simp only [binaries, level, hleft, hchain]
    · rwa [hfrom.first] at hfrom'

/-! ## Whole texts -/

theorem LinksText.getLast (hs : LinksText links s) (ht : OperandText e t) : ∀ c ∈ (t ++ s).getLast?, isNameChar c = true := by
  induction hs generalizing e t with
  | nil =>
    rw [List.append_nil]
    exact fun c hc => ht.chars.2 c (List.mem_of_mem_getLast? hc)
  | @cons _ _ _ o t' s' ho ht' hs ih =>
    have hne : t' ++ s' ≠ [] := by simp [ht'.chars.1]
    rw [← List.append_assoc, List.getLast?_append_of_ne_nil _ hne]
    exact ih ht'

theorem ChainText.trim (h : ChainText first links s) :
    ∃ t s', Text.trim s = t ++ s' ∧ OperandText first t ∧ LinksText links s' := by
  obtain ⟨hbefore, hfirst, hlinks, hafter⟩ := h
  refine ⟨_, _, trim_around hbefore hafter (fun c hc => ?_) fun c hc => ?_, hfirst, hlinks⟩
  · rw [List.head?_append_of_ne_nil _ hfirst.chars.1] at hc
    exact isBlank_of_isNameChar (hfirst.chars.2 c (List.mem_of_mem_head? hc))
  · exact isBlank_of_isNameChar (hlinks.getLast hfirst c hc)

theorem ChainText.parse_grouped {text : String} (h : ChainText first links text.toList) :
    ∃ tree, parse text = .ok tree ∧ tree.inOrder = (first, links) ∧ tree.Grouped := by
  obtain ⟨t, s, htrim, ht, hs⟩ := h.trim
  obtain ⟨tree, rest, hread, hfrom⟩ := binaries_takenFrom (nested (t ++ s).length) (show levels.drop 0 = levels from rfl) ht hs
  obtain ⟨later, hlinks, hrest, hhead⟩ := hfrom.later
  -- No operator is looser than the loosest level, so that nothing is left.
  cases hrest with
  | cons => exact absurd (hhead _ rfl) (Nat.not_lt_zero _)
  | nil =>
    rw [List.append_nil] at hlinks
    refine ⟨tree, ?_, Prod.ext hfrom.first hlinks.symm, hfrom.grouped⟩
    have hnested : nested ((t ++ s).length + 1) (t ++ s) = .done tree [] := by
      rw [nested, conditionalWith, hread]
      rfl
    have hempty : (t ++ s).isEmpty = false := by simp [ht.chars.1]
    rw [parse, htrim]
    simp only [hempty, readAll, hnested]
    rfl

/-- Operands with operators between them are read as the one tree in which tighter operators group first and operators of one level
from the left, and the spelling of the operators makes no difference. -/
theorem parse_chain {text : String} (h : ChainText first links text.toList) :
    ∃ tree, parse text = .ok tree ∧ tree.inOrder = (first, links) ∧ tree.Grouped ∧
      (∀ tree' : Expr, tree'.inOrder = (first, links) → tree'.Grouped → tree' = tree) ∧
      ∀ text' : String, ChainText first links text'.toList → parse text' = .ok tree := by
  obtain ⟨tree, hparse, hinOrder, hgrouped⟩ := h.parse_grouped
  have hunique (tree' : Expr) (hinOrder' : tree'.inOrder = (first, links)) (hgrouped' : tree'.Grouped) : tree' = tree :=
    hgrouped'.unique hgrouped (hinOrder'.trans hinOrder.symm)
  refine ⟨tree, hparse, hinOrder, hgrouped, hunique, fun text' h' => ?_⟩
  obtain ⟨tree', hparse', hinOrder', hgrouped'⟩ := h'.parse_grouped
  rw [hparse', hunique tree' hinOrder' hgrouped']

/-- Words and marks of four levels, first with gaps around all of them. -/
theorem parse_chain_spellings :
    let inner : Expr := .binary (.binary (.literal (.int 1)) .sub (.binary (.ident "b") .mul (.ident "b"))) .sub (.literal (.int 2))
    let tree : Expr := .binary (.ident "a") .or (.binary inner .notIn (.ident "in_b"))
    parse "a or 1 -\tb * b - 02 not \n in in_b" = .ok tree ∧ parse "a||1-b*b-2 not in in_b" = .ok tree := by
  intro inner tree
  have ha : OperandText (.ident "a") ['a'] := .name ⟨'a', [], by decide, by decide, by simp⟩ (by decide)
  have hb : OperandText (.ident "b") ['b'] := .name ⟨'b', [], by decide, by decide, by simp⟩ (by decide)
  have hin : OperandText (.ident "in_b") "in_b".toList :=
    .name ⟨'i', ['n', '_', 'b'], by decide, by decide, List.all_eq_true.1 (by decide)⟩ (by decide)
  have hone : OperandText (.literal (.int 1)) ['1'] := .integer (by simp) (List.all_eq_true.1 rfl) (by decide)
  have htwo : OperandText (.literal (.int 2)) ['2'] := .integer (by simp) (List.all_eq_true.1 rfl) (by decide)
  have htwo' : OperandText (.literal (.int 2)) ['0', '2'] := .integer (by simp) (List.all_eq_true.1 rfl) (by decide)
  have hnone : Gaps [] := List.all_eq_true.1 rfl
  have hspace : Gaps [' '] := List.all_eq_true.1 rfl
  have htab : Gaps ['\t'] := List.all_eq_true.1 rfl
  have hlines : Gaps [' ', '\n', ' '] := List.all_eq_true.1 rfl
  let links : Links := [(.or, .literal (.int 1)), (.sub, .ident "b"), (.mul, .ident "b"), (.sub, .literal (.int 2)),
    (.notIn, .ident "in_b")]
  have hspaced : LinksText links _ := .cons (.word (w := ['o', 'r']) rfl hspace hspace (by simp)) hone <|
    .cons (.marks (m := ['-']) rfl hspace htab) hb <| .cons (.marks (m := ['*']) rfl hspace hspace) hb <|
    .cons (.marks (m := ['-']) rfl hspace hspace) htwo' <| .cons (.notIn hspace hlines hspace (by simp)) hin .nil
  have hdense : LinksText links _ := .cons (.marks (m := ['|', '|']) rfl hnone hnone) hone <|
    .cons (.marks (m := ['-']) rfl hnone hnone) hb <| .cons (.marks (m := ['*']) rfl hnone hnone) hb <|
    .cons (.marks (m := ['-']) rfl hnone hnone) htwo <| .cons (.notIn hspace hspace hspace (by simp)) hin .nil
  have hends : ∀ c ∈ ([] : List Char), isBlank c = true := by simp
  have hchain : ChainText (.ident "a") links "a or 1 -\tb * b - 02 not \n in in_b".toList := .mk hends ha hspaced hends
  have hchain' : ChainText (.ident "a") links "a||1-b*b-2 not in in_b".toList := .mk hends ha hdense hends
  obtain ⟨tree', hparse, -, -, hunique, hspellings⟩ := parse_chain hchain
  have htree : tree = tree' := hunique tree rfl (by simp [tree, inner, Grouped, inOrder, BinaryOp.levelNumber])
  rw [htree]
  exact ⟨hparse, hspellings _ hchain'⟩

end Expr

end SqlTemplate
