import SqlTemplate.Number.Integer
import SqlTemplate.Text.Search

/-! # Character entities

Five entities have names. Any character can be written by its number.
-/

namespace SqlTemplate.Entity

inductive Fault
  | unterminated (text : String)
  | unknown (entity : String)

def Fault.message : Fault → String
  | .unterminated text => "unterminated entity in '" ++ text ++ "'"
  | .unknown entity => "unknown entity '&" ++ entity ++ ";'"

/-- The character of a code point, which surrogates have none. -/
def scalar? (n : Nat) : Option Char := if n.isValidChar then some (Char.ofNat n) else none

/-- The character that an entity stands for, by the text between `&` and `;`. -/
def char? : List Char → Option Char
  | ['l', 't'] => some '<'
  | ['g', 't'] => some '>'
  | ['a', 'm', 'p'] => some '&'
  | ['q', 'u', 'o', 't'] => some '"'
  | ['a', 'p', 'o', 's'] => some '\''
  | '#' :: 'x' :: digits | '#' :: 'X' :: digits => (Number.readHex? digits).bind scalar?
  | '#' :: digits => (Number.readNat? digits).bind scalar?
  | _ => none

/-- The text with its entities decoded, `whole` being the text that a message shows. -/
def decodeFrom (whole cs : List Char) : Except Fault (List Char) :=
  match _h : Text.breakOn ['&'] cs with
  | none => .ok cs
  | some (before, after) =>
    match _he : Text.breakOn [';'] after with
    | none => .error (.unterminated (.ofList whole))
    | some (entity, rest) =>
      match char? entity with
      | none => .error (.unknown (.ofList entity))
      | some c => (decodeFrom whole rest).map fun decoded => before ++ c :: decoded
termination_by cs.length
decreasing_by
  have := Text.length_of_breakOn _h
  have := Text.length_of_breakOn _he
  simp only [List.length_cons, List.length_nil] at *
  omega

def decode (cs : List Char) : Except Fault (List Char) := decodeFrom cs cs

end SqlTemplate.Entity
