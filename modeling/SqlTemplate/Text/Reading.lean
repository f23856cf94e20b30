import SqlTemplate.Text.Blank

/-! # Reading from the front of a text

A reader takes a value off the front. When it cannot, the reading is a mismatch, after which another reader may try
the same text, or a failure, after which none may.
-/

namespace SqlTemplate.Text

inductive Reading (ε α : Type)
  | done (value : α) (rest : List Char)
  | mismatch (e : ε)
  | failure (e : ε)

def Reader (ε α : Type) := List Char → Reading ε α

namespace Reader

variable {ε α β : Type}

def bind (p : Reader ε α) (f : α → Reader ε β) : Reader ε β := fun s =>
  match p s with
  | .done a rest => f a rest
  | .mismatch e => .mismatch e
  | .failure e => .failure e

instance : Monad (Reader ε) where
  pure a := fun s => .done a s
  bind := bind

/-- Tries the second reader where the first does not match. -/
def orElse (p q : Reader ε α) : Reader ε α := fun s =>
  match p s with
  | .mismatch _ => q s
  | r => r

instance : OrElse (Reader ε α) where
  orElse p q := orElse p (q ())

/-- Passes over the gaps at the front. -/
def gaps : Reader ε Unit := fun s => .done () (skipGaps s)

/-- The reader with gaps allowed on both sides. -/
def spaced (p : Reader ε α) : Reader ε α := do
  gaps
  let a ← p
  gaps
  pure a

/-- The items after the first: a comma and an item each. A comma without an item is left in the text. -/
def moreItems (item : Reader ε α) : (fuel : Nat) → Reader ε (List α)
  | 0 => pure []
  | fuel + 1 => fun s =>
    match s with
    | ',' :: after =>
      match item after with
      | .done a rest => (moreItems item fuel >>= fun items => pure (a :: items)) rest
      | .mismatch _ => .done [] s
      | .failure e => .failure e
    | _ => .done [] s

/-- Items between commas, perhaps none. -/
def itemList (item : Reader ε α) : Reader ε (List α) := fun s =>
  match item s with
  | .done a rest => (moreItems item rest.length >>= fun items => pure (a :: items)) rest
  | .mismatch _ => .done [] s
  | .failure e => .failure e

end Reader

end SqlTemplate.Text
