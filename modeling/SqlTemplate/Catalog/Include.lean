import SqlTemplate.Catalog.Basic

/-! # Includes

An include stands for the contents of a fragment, in which the properties of the include are substituted. A fragment cannot be
included in itself, so the fragments that are left become fewer on the way down.
-/

namespace SqlTemplate

theorem Dict.length_erase_lt {α : Type} {d : Dict α} {key : String} {v : α} (h : Dict.get? d key = some v) :
    (Dict.erase d key).length < d.length := by
  induction d with
  | nil => simp [Dict.get?_nil] at h
  | cons entry d ih =>
    obtain ⟨j, w⟩ := entry
    rw [Dict.get?_cons] at h
    by_cases hk : key = j
    · subst hk
      simpa [Dict.erase] using Nat.lt_succ_of_le (List.length_filter_le _ d)
    · rw [if_neg hk] at h
      have := ih h
      simpa [Dict.erase, Ne.symm hk] using this

namespace Include

/-- The text with known variables substituted. -/
def fill (known : Dict String) (text : String) : String := substitution.substitute (Dict.get? known) text

/-- The properties of an include. Their values may use the variables around it. -/
def properties (known : Dict String) (declared : Dict String) : List Element → Except CompileError (Dict String)
  | [] => .ok declared
  | e :: elements =>
    if e.name = "property" then do
      let name ← e.required "name"
      let value ← e.required "value"
      if Dict.contains declared name then .error (.duplicateProperty name)
      else properties known (Dict.insert name (fill known value) declared) elements
    else properties known declared elements

/-- The variables inside an include. -/
def inner (known : Dict String) (e : Element) : Except CompileError (Dict String) :=
  (properties known [] e.elements).map (Dict.union known)

mutual

/-- The content with its includes replaced by what `visit` makes of them. -/
def expandContent (visit : Element → Except CompileError (List Content)) (known : Dict String) :
    Content → Except CompileError (List Content)
  | .text s => .ok [.text (fill known s)]
  | .cdata s => .ok [.cdata (fill known s)]
  | .element "include" attributes children => visit ⟨"include", attributes, children⟩
  | .element name attributes children => do
    let expanded ← expandContents visit known children
    .ok [.element name (attributes.map fun (key, value) => (key, fill known value)) expanded]

def expandContents (visit : Element → Except CompileError (List Content)) (known : Dict String) :
    List Content → Except CompileError (List Content)
  | [] => .ok []
  | c :: contents => do
    let first ← expandContent visit known c
    let rest ← expandContents visit known contents
    .ok (first ++ rest)

end

/-- The contents with every include expanded. `path` holds the fragments that they are part of, and `left` all others. -/
def expand (left : Dict Fragment) (path : List String) (nameSpace : String) (known : Dict String)
    (contents : List Content) : Except CompileError (List Content) :=
  expandContents
    (fun e => do
      let reference ← e.required "refid"
      let id := Catalog.qualify nameSpace (fill known reference)
      if id ∈ path then .error (.circularInclude id)
      else
        match _h : Dict.get? left id with
        | none => .error (.unknownFragment id)
        | some fragment => do
          let within ← inner known e
          expand (Dict.erase left id) (id :: path) fragment.nameSpace within fragment.element.children)
    known contents
termination_by left.length
decreasing_by exact Dict.length_erase_lt _h

end Include

/-- The element of a statement with every include expanded and the known variables substituted. -/
def Catalog.expanded (c : Catalog) (s : Statement) : Except Error Element :=
  let known := c.engine.substitutions
  ((Include.expand c.fragments [] s.nameSpace known s.body.children).mapError Error.compile).map fun children =>
    ⟨s.body.name, s.body.attributes.map fun (key, value) => (key, Include.fill known value), children⟩

end SqlTemplate
