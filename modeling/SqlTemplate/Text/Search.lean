/-! # Searching text

A pattern found in a text splits the text in three, and the three together are the text again.
-/

namespace SqlTemplate.Text

/-- What follows the pattern at the start of a text that begins with it. -/
def after? : (pattern text : List Char) → Option (List Char)
  | [], text => some text
  | _ :: _, [] => none
  | p :: pattern, c :: text => if p = c then after? pattern text else none

theorem after?_append (p r : List Char) : after? p (p ++ r) = some r := by
  induction p with
  | nil => rfl
  | cons c p ih => simpa [after?] using ih

theorem eq_append_of_after? {p t r : List Char} (h : after? p t = some r) : t = p ++ r := by
  induction p generalizing t with
  | nil => simpa [after?] using h
  | cons c p ih =>
    cases t with
    | nil => simp [after?] at h
    | cons d t =>
      rw [after?] at h
      split at h
      · subst d
        rw [ih h, List.cons_append]
      · simp at h

theorem after?_eq_some_iff {p t r : List Char} : after? p t = some r ↔ t = p ++ r :=
  ⟨eq_append_of_after?, fun h => h ▸ after?_append p r⟩

/-- The text before the first occurrence of the pattern and the text after it. -/
def breakOn (pattern : List Char) : List Char → Option (List Char × List Char)
  | [] => (after? pattern []).map fun rest => ([], rest)
  | c :: text =>
    match after? pattern (c :: text) with
    | some rest => some ([], rest)
    | none => (breakOn pattern text).map fun (before, rest) => (c :: before, rest)

theorem eq_append_of_breakOn {p t b r : List Char} (h : breakOn p t = some (b, r)) : t = b ++ p ++ r := by
  induction t generalizing b with
  | nil =>
    obtain ⟨r', hr, he⟩ := Option.map_eq_some_iff.1 h
    simp only [Prod.mk.injEq] at he
    obtain ⟨rfl, rfl⟩ := he
    simpa using eq_append_of_after? hr
  | cons c t ih =>
    rw [breakOn] at h
    split at h
    · rename_i r' hr
      simp only [Option.some.injEq, Prod.mk.injEq] at h
      obtain ⟨rfl, rfl⟩ := h
      simpa using eq_append_of_after? hr
    · obtain ⟨⟨b', r'⟩, hb, he⟩ := Option.map_eq_some_iff.1 h
      simp only [Prod.mk.injEq] at he
      obtain ⟨rfl, rfl⟩ := he
      simpa using ih hb

theorem length_of_breakOn {p t b r : List Char} (h : breakOn p t = some (b, r)) :
    b.length + p.length + r.length = t.length := by
  rw [eq_append_of_breakOn h]
  simp [Nat.add_assoc]

def contains (pattern text : List Char) : Bool := (breakOn pattern text).isSome

/-- The parts between the separators. There is always one part more than there are separators. -/
def fieldsOn (separator : Char) : List Char → List (List Char)
  | [] => [[]]
  | c :: text =>
    match fieldsOn separator text with
    | [] => [[c]]
    | field :: fields => if c = separator then [] :: field :: fields else (c :: field) :: fields

/-- The size of the UTF-8 encoding. Positions in messages count it. -/
def byteSize : List Char → Nat
  | [] => 0
  | c :: text => c.utf8Size + byteSize text

end SqlTemplate.Text
