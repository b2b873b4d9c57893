import ApiCall.Decimal.Real
import ApiCall.FieldPath
import ApiCall.Json.Writer
import ApiCall.Text.Blank

/-!
The canonical text of a scalar. Booleans and numbers may also come spelled in a string.
-/

namespace ApiCall

open Json

namespace ScalarKind

/-- The text of a truth value. -/
def boolean? : Value → Option String
  | .bool true => some "true"
  | .bool false => some "false"
  | .string s => if s = "true" ∨ s = "false" then some s else none
  | _ => none

/-- The decimal text of an integer, without a plus and leading zeros. -/
def integer? : Value → Option String
  | .number (.integer i) => some (String.ofList (Decimal.ofInt i))
  | .string s =>
    (Decimal.int64? (Blank.trim s.toList)).map fun i => String.ofList (Decimal.ofInt i)
  | _ => none

/-- The double-precision number that a value is or spells. -/
def realOf? : Value → Option Binary64
  | .number (.integer i) => some (.ofInt i)
  | .number (.float x) => some x
  | .string s => Decimal.float? (Blank.trim s.toList)
  | _ => none

/-- The shortest decimal of a finite number, without an exponent. -/
def real? (v : Value) : Option String :=
  match realOf? v with
  | some x => if x.isFinite then some (String.ofList (Decimal.plainText x)) else none
  | none => none

def string? : Value → Option String
  | .string s => some s
  | _ => none

/-- A string as it is, any other value as JSON. -/
def jsonText : Value → String
  | .string s => s
  | v => v.text

/-- The canonical text of a value of this kind. -/
def encode (kind : ScalarKind) (value : Value) (path : FieldPath) : Except Error String :=
  let orMismatch : Option String → Except Error String
    | some text => .ok text
    | none => .error (.mismatchAt path kind.name value)
  match kind with
  | .boolean => orMismatch (boolean? value)
  | .integer => orMismatch (integer? value)
  | .unixTime => orMismatch (integer? value)
  | .float => orMismatch (real? value)
  | .choice allowed =>
    match value with
    | .string s => if allowed.contains s then .ok s else .error (.notAllowed path.text s allowed)
    | _ => .error (.mismatchAt path kind.name value)
  | .json => .ok (jsonText value)
  | _ => orMismatch (string? value)

end ScalarKind

end ApiCall
