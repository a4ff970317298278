import RuleSets.Text.Basic

/-!
# Data values

The values that structured texts stand for.  A number that is no 64-bit integer is kept as it is
spelled, since nothing ever computes with it.  An object keeps its fields in order, with no key
twice.
-/

namespace RuleSets

/-- A value read from, or written as, structured text. -/
inductive Value where
  | null
  | bool (b : Bool)
  | int (n : Int)
  | float (spelling : Text)
  | string (s : Text)
  | list (items : List Value)
  | object (fields : List (Text × Value))
deriving Inhabited, Repr

namespace Value

/-- Give the field `k` the value `v`; a field of that key is replaced. -/
def setField (k : Text) (v : Value) : List (Text × Value) → List (Text × Value)
  | [] => [(k, v)]
  | (k', v') :: rest => if k' = k then (k, v) :: rest else (k', v') :: setField k v rest

/-- The fields of an object whose members come in this order: of two with one key, the
last counts. -/
def fieldsOf (members : List (Text × Value)) : List (Text × Value) :=
  members.foldl (fun fields m => setField m.1 m.2 fields) []

/-- The field of a given key. -/
def field? (k : Text) (fields : List (Text × Value)) : Option Value :=
  (fields.find? (·.1 == k)).map (·.2)

/-- The text of a string value. -/
def string? : Value → Option Text
  | string s => some s
  | _ => none

/-- The items of a list value. -/
def list? : Value → Option (List Value)
  | list items => some items
  | _ => none

/-- Whether an integer fits 64 bits as a signed or an unsigned number. -/
def fits64 (n : Int) : Bool := decide (-Nat.pow 2 63 ≤ n) && decide (n < Nat.pow 2 64)

/-- Whether an integer fits 64 bits as a signed number. -/
def fitsSigned64 (n : Int) : Bool := decide (-Nat.pow 2 63 ≤ n) && decide (n < Nat.pow 2 63)

end Value
end RuleSets
