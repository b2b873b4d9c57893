import ApiCall.Assoc
import ApiCall.Decimal.Binary64

/-!
JSON values. An integer within the 64-bit ranges stays an integer; every other number is a
double-precision one. The members of an object keep their order.
-/

namespace ApiCall

namespace Json

inductive Number where
  /-- An integer from `-2^63` up to `2^64 - 1`. -/
  | integer (i : Int)
  | float (x : Binary64)
  deriving DecidableEq, Repr

inductive Value where
  | null
  | bool (b : Bool)
  | number (n : Number)
  | string (s : String)
  | array (items : List Value)
  | object (members : List (String × Value))
  deriving Repr, Inhabited

/-- The name of a value's kind in messages. -/
def Value.kind : Value → String
  | .null => "null"
  | .bool _ => "boolean"
  | .number _ => "number"
  | .string _ => "string"
  | .array _ => "array"
  | .object _ => "object"

def Value.isNull : Value → Bool
  | .null => true
  | _ => false

/-- An array or an object. -/
def Value.isContainer : Value → Bool
  | .array _ => true
  | .object _ => true
  | _ => false

mutual

/-- The value with each object's repeated keys merged: the first position, the last value. -/
def Value.merge : Value → Value
  | .array items => .array (mergeItems items)
  | .object members => .object (Assoc.ofList (mergeMembers members))
  | v => v

/-- Merges repeated keys in each item. -/
def mergeItems : List Value → List Value
  | [] => []
  | v :: rest => v.merge :: mergeItems rest

/-- Merges repeated keys inside each member's value. -/
def mergeMembers : List (String × Value) → List (String × Value)
  | [] => []
  | (key, v) :: rest => (key, v.merge) :: mergeMembers rest

end

end Json

end ApiCall
