import SqlTemplate.Markup.Parser
import SqlTemplate.Proofs.Markup.Entity

/-! # Written markup

The texts that a tree may be written as. Gaps may stand in tags, either quote around a value, any entity for a character, and comments,
instructions and document types around the root.
-/

namespace SqlTemplate.Markup

open Text

/-! ## Trees -/

/-- One or more characters of a name. -/
structure IsName (name : String) : Prop where
  nonempty : name.toList ≠ []
  chars : ∀ c ∈ name.toList, isNameChar c = true

def commentEnd : List Char := ['-', '-', '>']

def cdataEnd : List Char := [']', ']', '>']

def instructionEnd : List Char := ['?', '>']

/-- Contents that a text tells: a text is seen only if it has characters, and two side by side would be one. -/
inductive Sound : List Content → Prop
  | nil : Sound []
  | text {t : String} {more : List Content} (hne : t.toList ≠ []) (hapart : ∀ next, more.head? ≠ some (.text next)) (hmore : Sound more) :
    Sound (.text t :: more)
  | cdata {t : String} {more : List Content} (hdata : ¬ cdataEnd <:+: t.toList) (hmore : Sound more) : Sound (.cdata t :: more)
  | element {tag : String} {attributes : List (String × String)} {children more : List Content} (htag : IsName tag)
    (hkeys : ∀ a ∈ attributes, IsName a.1) (hchildren : Sound children) (hmore : Sound more) :
    Sound (.element tag attributes children :: more)

/-! ## Texts -/

def Gaps (s : List Char) : Prop := ∀ c ∈ s, isGap c = true

/-- The attributes as they stand after the name of a tag. -/
inductive AttributesText : List (String × String) → List Char → Prop
  | nil : AttributesText [] []
  | cons {key value : String} {attributes : List (String × String)} {gap before after raw text : List Char} {quote : Char}
    (hgap : Gaps gap) (hne : gap ≠ []) (hbefore : Gaps before) (hafter : Gaps after) (hquote : quote = '"' ∨ quote = '\'')
    (hvalue : Entity.Encodes ['&', '<', quote] value.toList raw) (hmore : AttributesText attributes text) :
    AttributesText ((key, value) :: attributes)
      (gap ++ (key.toList ++ (before ++ '=' :: (after ++ quote :: (raw ++ quote :: text)))))

/-- A tag up to the bracket or slash that ends it. -/
inductive TagText (tag : String) (attributes : List (String × String)) : List Char → Prop
  | tag {text gap : List Char} (hattributes : AttributesText attributes text) (hgap : Gaps gap) :
    TagText tag attributes ('<' :: (tag.toList ++ (text ++ gap)))

inductive ContentsText : List Content → List Char → Prop
  | nil : ContentsText [] []
  | text {t : String} {raw rest : List Char} {more : List Content} (hraw : Entity.Encodes ['&', '<'] t.toList raw)
    (hmore : ContentsText more rest) : ContentsText (.text t :: more) (raw ++ rest)
  | cdata {t : String} {rest : List Char} {more : List Content} (hmore : ContentsText more rest) :
    ContentsText (.cdata t :: more) (cdataMark ++ (t.toList ++ (cdataEnd ++ rest)))
  | childless {tag : String} {attributes : List (String × String)} {opening rest : List Char} {more : List Content}
    (hopening : TagText tag attributes opening) (hmore : ContentsText more rest) :
    ContentsText (.element tag attributes [] :: more) (opening ++ '/' :: '>' :: rest)
  | element {tag : String} {attributes : List (String × String)} {children more : List Content} {opening inner gap rest : List Char}
    (hopening : TagText tag attributes opening) (hchildren : ContentsText children inner) (hgap : Gaps gap)
    (hmore : ContentsText more rest) :
    ContentsText (.element tag attributes children :: more)
      (opening ++ '>' :: (inner ++ (closeMark ++ (tag.toList ++ (gap ++ '>' :: rest)))))

/-- What may stand before and after the root. -/
inductive SurroundingText : List Char → Prop
  | nil : SurroundingText []
  | gap {c : Char} {rest : List Char} (hc : isGap c = true) (hmore : SurroundingText rest) : SurroundingText (c :: rest)
  | comment {body rest : List Char} (hbody : ¬ commentEnd <:+: body) (hmore : SurroundingText rest) :
    SurroundingText (commentMark ++ (body ++ (commentEnd ++ rest)))
  | instruction {body rest : List Char} (hbody : ¬ instructionEnd <:+: body) (hmore : SurroundingText rest) :
    SurroundingText (instructionMark ++ (body ++ (instructionEnd ++ rest)))
  | doctype {body rest : List Char} (hbody : ∀ c ∈ body, c ≠ '[' ∧ c ≠ '>') (hmore : SurroundingText rest) :
    SurroundingText (doctypeMark ++ (body ++ '>' :: rest))

inductive DocumentText (root : Element) : List Char → Prop
  | document {before text after : List Char} (hbefore : SurroundingText before) (hroot : ContentsText [root.toContent] text)
    (hafter : SurroundingText after) : DocumentText root (before ++ (text ++ after))

/-! ## Every tree can be written -/

theorem exists_attributesText (attributes : List (String × String)) : ∃ text, AttributesText attributes text := by
  induction attributes with
  | nil => exact ⟨[], .nil⟩
  | cons a attributes ih =>
    obtain ⟨text, h⟩ := ih
    obtain ⟨key, value⟩ := a
    obtain ⟨raw, hraw⟩ := Entity.exists_encodes ['&', '<', '"'] (by simp) value.toList
    have hspace : Gaps [' '] := by simp [Gaps, isGap]
    have hnone : Gaps [] := by simp [Gaps]
    exact ⟨_, .cons hspace (by simp) hnone hnone (.inl rfl) hraw h⟩

theorem Sound.exists_contentsText {contents : List Content} (h : Sound contents) : ∃ text, ContentsText contents text := by
  induction h with
  | nil => exact ⟨[], .nil⟩
  | text hne hapart hmore ih =>
    obtain ⟨rest, hrest⟩ := ih
    obtain ⟨raw, hraw⟩ := Entity.exists_encodes ['&', '<'] (by simp) _
    exact ⟨_, .text hraw hrest⟩
  | cdata hdata hmore ih =>
    obtain ⟨rest, hrest⟩ := ih
    exact ⟨_, .cdata hrest⟩
  | @element tag attributes children more htag hkeys hchildren hmore ihchildren ih =>
    obtain ⟨inner, hinner⟩ := ihchildren
    obtain ⟨rest, hrest⟩ := ih
    obtain ⟨text, htext⟩ := exists_attributesText attributes
    have hnone : Gaps [] := by simp [Gaps]
    exact ⟨_, .element (.tag htext hnone) hinner hnone hrest⟩

end SqlTemplate.Markup
