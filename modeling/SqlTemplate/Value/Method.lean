import SqlTemplate.Text.LetterCase
import SqlTemplate.Value.Comparison

/-! # Methods of values -/

namespace SqlTemplate.Value

/-- The number of items, entries or characters. -/
def size? : Value → Option Nat
  | .list items => some items.length
  | .map entries => some entries.length
  | .string s => some s.length
  | _ => none

def isSizeName (name : String) : Bool := name == "size" || name == "length"

/-- The size, where the name stands for it. An entry of a map goes before the size of the map. -/
def sizeProperty? (v : Value) (name : String) : Option Nat :=
  match v with
  | .map entries => if isSizeName name && !Dict.contains entries name then some entries.length else none
  | v => if isSizeName name then v.size? else none

inductive Method
  | size
  | isEmpty
  | toString
  | trim
  | toUpperCase
  | toLowerCase
  | startsWith
  | endsWith
  | contains
  | containsKey
  | equals

def Method.ofName? : String → Option Method
  | "size" => some .size
  | "length" => some .size
  | "isEmpty" => some .isEmpty
  | "toString" => some .toString
  | "trim" => some .trim
  | "toUpperCase" => some .toUpperCase
  | "toLowerCase" => some .toLowerCase
  | "startsWith" => some .startsWith
  | "endsWith" => some .endsWith
  | "contains" => some .contains
  | "containsKey" => some .containsKey
  | "equals" => some .equals
  | _ => none

/-- A method without argument. None: the value does not have it. -/
def call0? (m : Method) (target : Value) : Option (Except EvaluationFault Value) :=
  match m, target with
  | .size, v => v.size?.map fun n => .ok (.ofNat n)
  | .isEmpty, v => v.size?.map fun n => .ok (.bool (n == 0))
  | .toString, v => some (.ok (.string v.text))
  | .trim, .string s => some (.ok (.string (Text.trimString s)))
  | .toUpperCase, .string s => some (.ok (.string (Text.upperCase s)))
  | .toLowerCase, .string s => some (.ok (.string (Text.lowerCase s)))
  | _, _ => none

def startsWith (text affix : String) : Bool := (Text.after? affix.toList text.toList).isSome

def endsWith (text affix : String) : Bool := (Text.after? affix.toList.reverse text.toList.reverse).isSome

/-- A method with one argument. None: the value does not have it. -/
def call1? (m : Method) (target arg : Value) : Option (Except EvaluationFault Value) :=
  match m, target with
  | .startsWith, .string s => some (.ok (.bool (startsWith s arg.text)))
  | .endsWith, .string s => some (.ok (.bool (endsWith s arg.text)))
  | .contains, .list _ | .contains, .string _ => some ((holds target arg).map .bool)
  | .containsKey, .map _ => some ((holds target arg).map .bool)
  | .equals, v => some (.ok (.bool (v.equals arg)))
  | _, _ => none

def Method.arity : Method → Nat
  | .size | .isEmpty | .toString | .trim | .toUpperCase | .toLowerCase => 0
  | .startsWith | .endsWith | .contains | .containsKey | .equals => 1

def call (target : Value) (name : String) (args : List Value) : Except EvaluationFault Value :=
  match Method.ofName? name with
  | none => .error (.unknownMethod name)
  | some m =>
    let answer : Option (Except EvaluationFault Value) :=
      match m.arity, args with
      | 0, [] => call0? m target
      | 1, [arg] => call1? m target arg
      | expected, args => some (.error (.wrongArity name expected args.length))
    answer.getD (.error (.noSuchMethod name target))

end SqlTemplate.Value
