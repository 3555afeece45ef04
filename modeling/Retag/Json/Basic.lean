/-
JSON values. An object lists its members. One that is read has them in ascending
order of their names, each name once with its last value, as `Json.ofMembers`
builds them; an object that is only written keeps the order it is given.
-/
import Retag.Keyed
import Retag.Decimal.Shortest

namespace Retag

/-- Whole numbers of 64 bits are exact; every other number is a double. -/
inductive JsonNumber where
  | natural (n : Nat)
  /-- The number `-n`. -/
  | negative (n : Nat)
  | double (x : Binary64)
  deriving DecidableEq, Repr

inductive Json where
  | null
  | bool (b : Bool)
  | number (n : JsonNumber)
  | string (s : String)
  | array (items : List Json)
  | object (members : List (String × Json))
  deriving Repr, Inhabited

/-- Doubles are written positionally from `1e-5` to below `1e16`. -/
def JsonNumber.style : Decimal.Style where
  positional e := -5 ≤ e && e < 16
  wholeHasPoint := true
  exponentHasPlus := true

def JsonNumber.text : JsonNumber → String
  | .natural n => toString n
  | .negative n => "-" ++ toString n
  | .double x => x.text style

namespace Json

/-- The object of the given members; of two with one name the later wins. -/
def ofMembers (members : List (String × Json)) : Json := .object (Keyed.ofList members)

/-- The name of the kind of a value. -/
def kind : Json → String
  | .null => "null"
  | .bool _ => "bool"
  | .number _ => "number"
  | .string _ => "string"
  | .array _ => "array"
  | .object _ => "object"

end Json

end Retag
