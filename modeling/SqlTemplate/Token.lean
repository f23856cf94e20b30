import SqlTemplate.Text.Blank
import SqlTemplate.Text.Search

/-! # Tokens in text

A token stands between an opening and a closing delimiter. A backslash before a delimiter takes its meaning away, and an
opening delimiter that is never closed is plain text.
-/

namespace SqlTemplate

/-- With both delimiters empty a text would hold tokens without end. -/
structure Delimiters where
  opening : List Char
  closing : List Char
  usable : opening ≠ [] ∨ closing ≠ [] := by decide

/-- One run of a text. -/
inductive Lexeme
  | text (cs : List Char)
  /-- The text before an escaped opening delimiter, without the backslash. -/
  | escape (before : List Char)
  /-- The content of a token, parted at its escaped closing delimiters. -/
  | token (parts : List (List Char))

/-- A run of text, or the content of a token. -/
inductive Piece
  | text (s : String)
  | token (content : String)

/-- The text without the backslash that ends it. -/
def unescape? (cs : List Char) : Option (List Char) :=
  if cs.getLast? = some '\\' then some cs.dropLast else none

theorem length_pos_of_unescape? {cs b : List Char} (h : unescape? cs = some b) : 0 < cs.length := by
  cases cs with
  | nil => simp [unescape?] at h
  | cons => simp

namespace Delimiters

/-- What follows an opening delimiter up to its closing one, and the rest. -/
def takeToken? (closing cs : List Char) : Option (List (List Char) × List Char) :=
  match _h : Text.breakOn closing cs with
  | none => none
  | some (segment, after) =>
    match _hs : unescape? segment with
    | none => some ([segment], after)
    | some part => (takeToken? closing after).map fun (parts, rest) => (part :: parts, rest)
termination_by cs.length
decreasing_by
  have := Text.length_of_breakOn _h
  have := length_pos_of_unescape? _hs
  omega

theorem length_of_takeToken? {closing cs rest : List Char} {parts : List (List Char)}
    (h : takeToken? closing cs = some (parts, rest)) : closing.length + rest.length ≤ cs.length := by
  induction cs using takeToken?.induct closing generalizing parts with
  | case1 cs hb => rw [takeToken?] at h; split at h <;> simp_all
  | case2 cs segment after hb hs =>
    rw [takeToken?] at h
    have := Text.length_of_breakOn hb
    split at h
    · simp_all
    · rename_i hb'
      rw [hb] at hb'
      simp only [Option.some.injEq, Prod.mk.injEq] at hb'
      obtain ⟨rfl, rfl⟩ := hb'
      split at h
      · simp only [Option.some.injEq, Prod.mk.injEq] at h
        obtain ⟨-, rfl⟩ := h
        omega
      · simp_all
  | case3 cs segment after hb part hs ih =>
    rw [takeToken?] at h
    have := Text.length_of_breakOn hb
    split at h
    · simp_all
    · rename_i hb'
      rw [hb] at hb'
      simp only [Option.some.injEq, Prod.mk.injEq] at hb'
      obtain ⟨rfl, rfl⟩ := hb'
      split at h
      · simp_all
      · obtain ⟨⟨parts', rest'⟩, ht, he⟩ := Option.map_eq_some_iff.1 h
        simp only [Prod.mk.injEq] at he
        obtain ⟨-, rfl⟩ := he
        have := ih ht
        omega

def textRun (cs : List Char) : List Lexeme := if cs.isEmpty then [] else [.text cs]

/-- The runs of a text in order. -/
def lexemes (d : Delimiters) (cs : List Char) : List Lexeme :=
  match _h : Text.breakOn d.opening cs with
  | none => textRun cs
  | some (before, after) =>
    match _hb : unescape? before with
    | some text => .escape text :: d.lexemes after
    | none =>
      match _ht : takeToken? d.closing after with
      | some (parts, rest) => textRun before ++ .token parts :: d.lexemes rest
      | none => textRun before ++ [.text (d.opening ++ after)]
termination_by cs.length
decreasing_by
  · have := Text.length_of_breakOn _h
    have := length_pos_of_unescape? _hb
    omega
  · have := Text.length_of_breakOn _h
    have := length_of_takeToken? _ht
    have := d.usable.imp List.length_pos_iff.2 List.length_pos_iff.2
    omega

/-- Escapes are dropped, or kept for a later pass over the same text. -/
inductive Escapes
  | drop
  | keep

/-- What stands for a backslash that escapes. -/
def Escapes.mark : Escapes → List Char
  | .drop => []
  | .keep => ['\\']

def piece (d : Delimiters) (e : Escapes) : Lexeme → Piece
  | .text cs => .text (.ofList cs)
  | .escape before => .text (.ofList (before ++ e.mark ++ d.opening))
  | .token parts => .token (.ofList ((e.mark ++ d.closing).intercalate parts))

def pieces (d : Delimiters) (e : Escapes) (text : String) : List Piece :=
  (d.lexemes text.toList).map (d.piece e)

/-- The contents of the tokens in order. -/
def tokens (d : Delimiters) (text : String) : List String :=
  (d.pieces .drop text).filterMap fun
    | .text _ => none
    | .token content => some content

def hasTokens (d : Delimiters) (text : String) : Bool :=
  (d.lexemes text.toList).any fun
    | .token _ => true
    | _ => false

def mergeTexts : List Piece → List Piece
  | [] => []
  | .token content :: rest => .token content :: mergeTexts rest
  | .text s :: rest =>
    match mergeTexts rest with
    | .text t :: more => .text (s ++ t) :: more
    | more => .text s :: more

/-- Text and tokens in turn, escapes resolved and neighbouring texts joined. -/
def split (d : Delimiters) (text : String) : List Piece := mergeTexts (d.pieces .drop text)

/-- The text with every token replaced, the tokens being visited in order. -/
def replace {m : Type → Type} [Monad m] (d : Delimiters) (e : Escapes) (f : String → m String) (text : String) :
    m String := do
  let parts ← (d.pieces e text).mapM fun
    | .text s => pure s
    | .token content => f content
  pure (String.join parts)

/-- Replaces tokens and drops escapes. -/
def scan {m : Type → Type} [Monad m] (d : Delimiters) (f : String → m String) (text : String) : m String :=
  d.replace .drop f text

/-- Replaces tokens and keeps escapes, so that the text can be scanned again. -/
def edit {m : Type → Type} [Monad m] (d : Delimiters) (f : String → m String) (text : String) : m String :=
  d.replace .keep f text

/-- The token as it stands in a text. -/
def enclose (d : Delimiters) (content : String) : String :=
  .ofList d.opening ++ content ++ .ofList d.closing

/-- Replaces the tokens whose trimmed content is a known name and leaves everything else as it is. -/
def substitute (d : Delimiters) (lookup : String → Option String) (text : String) : String :=
  d.edit (m := Id) (fun content => (lookup (Text.trimString content)).getD (d.enclose content)) text

end Delimiters

/-- An expression between `${` and `}`, whose text goes into the statement. -/
def substitution : Delimiters := ⟨['$', '{'], ['}'], by decide⟩

/-- A value between `#{` and `}`, which is bound to the statement. -/
def placeholder : Delimiters := ⟨['#', '{'], ['}'], by decide⟩

end SqlTemplate
