/-! # Sorted dictionaries

Maps, bindings and tables are lists of entries in the order of their keys, which is the order of code
points.
-/

namespace SqlTemplate

abbrev Dict (α : Type) := List (String × α)

namespace Dict

variable {α : Type}

def get? (d : Dict α) (key : String) : Option α := List.lookup key d

def contains (d : Dict α) (key : String) : Bool := (get? d key).isSome

/-- Puts the entry where its key belongs, over one of the same key. -/
def insert (key : String) (value : α) : Dict α → Dict α
  | [] => [(key, value)]
  | (k, v) :: d =>
    if key = k then (key, value) :: d
    else if key < k then (key, value) :: (k, v) :: d
    else (k, v) :: insert key value d

def erase (d : Dict α) (key : String) : Dict α := d.filter fun (k, _) => k ≠ key

def keys (d : Dict α) : List String := d.map (·.1)

def values (d : Dict α) : List α := d.map (·.2)

/-- The entries of both, those of the second over those of the first. -/
def union (d e : Dict α) : Dict α := e.foldl (fun d (k, v) => insert k v d) d

def ofList (entries : List (String × α)) : Dict α := union [] entries

theorem get?_nil (k : String) : get? ([] : Dict α) k = none := rfl

theorem get?_cons (k j : String) (v : α) (d : Dict α) :
    get? ((j, v) :: d) k = if k = j then some v else get? d k := by
  rw [get?, List.lookup_cons]
  by_cases h : k = j
  · simp [h]
  · rw [beq_eq_false_iff_ne.2 h, if_neg h]
    rfl

theorem get?_insert (key k : String) (value : α) (d : Dict α) :
    get? (insert key value d) k = if k = key then some value else get? d k := by
  induction d with
  | nil => rw [insert, get?_cons]
  | cons entry d ih =>
    obtain ⟨j, v⟩ := entry
    rw [insert]
    split
    · subst j
      rw [get?_cons, get?_cons]
      split <;> rfl
    · split
      · rw [get?_cons]
      · rw [get?_cons, get?_cons, ih]
        by_cases hk : k = key
        · simp_all
        · simp [hk]

theorem get?_insert_self (key : String) (value : α) (d : Dict α) :
    get? (insert key value d) key = some value := by
  simp [get?_insert]

theorem get?_insert_of_ne {key k : String} (h : k ≠ key) (value : α) (d : Dict α) :
    get? (insert key value d) k = get? d k := by
  simp [get?_insert, h]

theorem get?_erase (key k : String) (d : Dict α) :
    get? (erase d key) k = if k = key then none else get? d k := by
  induction d with
  | nil => simp [erase, get?_nil]
  | cons entry d ih =>
    obtain ⟨j, v⟩ := entry
    rw [get?_cons]
    by_cases hj : j = key
    · subst j
      rw [show erase ((key, v) :: d) key = erase d key by simp [erase], ih]
      split <;> rfl
    · rw [show erase ((j, v) :: d) key = (j, v) :: erase d key by simp [erase, hj], get?_cons, ih]
      by_cases hk : k = j <;> simp_all

end Dict

/-- The names in order, each once. -/
def sortedNames (names : List String) : List String := Dict.keys (Dict.ofList (names.map (·, ())))

end SqlTemplate
